/-
# All connections

The connections of a daemon are served one request at a time. After each
request every observer writes the events that it got, so that the lines on one
connection stand in the order in which they came about.

Key definitions: `Peer`, `Server`, `Server.accept`, `Server.receive`,
`Server.receiveAll`, `Server.take`.
-/
import SessionWatch.Connection.Basic

namespace SessionWatch

/-- A connection with the lines that were written on it and not taken yet. -/
structure Peer where
  name : String
  connection : Connection
  written : List String := []
  deriving DecidableEq

/-- A daemon with all of its connections. -/
structure Server (σ : Type) where
  daemon : Daemon σ
  setup : Daemon.Setup
  /-- The connections that are open, or have lines left to be taken. -/
  peers : List Peer := []
  /-- What came of the ends of turns, the latest first. -/
  reports : List Turn.Report := []

namespace Server

variable {σ : Type}

/-- A server to which nothing has happened yet. -/
def new (c : Config) (processId : Nat) (outer : σ) : Server σ :=
  { daemon := .new c outer, setup := ⟨c.classifier, processId⟩ }

/-- The connection of a name. -/
def peer? (s : Server σ) (name : String) : Option Peer := s.peers.find? fun p => p.name = name

/-- Puts down what a step on the connection of a peer led to. -/
def settle (s : Server σ) (p : Peer) (step : Connection.Step σ) : Server σ :=
  { s with
    daemon := step.daemon
    reports := step.report.toList ++ s.reports
    peers := s.peers.map fun q =>
      if q.name = p.name then ⟨p.name, step.connection, p.written ++ step.written⟩ else q }

/-- Every observer writes the lines that it got. -/
def flush (s : Server σ) : Server σ :=
  s.peers.foldl (fun s p => s.settle p (p.connection.flush s.daemon)) s

/-- A new connection, unless there is one of this name. -/
def accept (s : Server σ) (name : String) : Server σ :=
  match s.peer? name with
  | some _ => s
  | none =>
    let p : Peer := ⟨name, .closed, []⟩
    { s with peers := s.peers ++ [p] }.settle p (Connection.arrive s.daemon)

/-- What is read on a connection is dealt with. -/
def receive (outside : Outside σ) (s : Server σ) (name : String) (r : Received) : Server σ :=
  match s.peer? name with
  | none => s
  | some p => (s.settle p (p.connection.receive outside s.setup r s.daemon)).flush

/-- Everything that is read on a connection is dealt with in its order. -/
def receiveAll (outside : Outside σ) (s : Server σ) (name : String) (rs : List Received) :
    Server σ :=
  rs.foldl (fun s r => s.receive outside name r) s

/-- Takes the lines that were written on a connection; whether it has ended is told as well. -/
def take (s : Server σ) (name : String) : Server σ × List String × Bool :=
  match s.peer? name with
  | none => (s, [], true)
  | some p =>
    if p.connection = .closed then
      ({ s with peers := s.peers.filter fun q => q.name ≠ name }, p.written, true)
    else
      let peers := s.peers.map fun q => if q.name = name then { q with written := [] } else q
      ({ s with peers := peers }, p.written, false)

/-- The reports are taken off. -/
def clearReports (s : Server σ) : Server σ := { s with reports := [] }

end Server

end SessionWatch
