/-
# Connections

A connection that is let in sends requests and gets a reply for each. After a
subscription it is that of an observer: replies then go into the observer's
mailbox, behind the events that are in it already. A line that cannot be read
ends the connection.

Key definitions: `Connection`, `Connection.arrive`, `Connection.receive`,
`Connection.flush`.
-/
import SessionWatch.Connection.Intake
import SessionWatch.Daemon.Basic

namespace SessionWatch

/-- What a connection is in the middle of. -/
inductive Connection where
  /-- It sends requests, of which `served` were received. -/
  | requests (served : Nat)
  /-- It is that of the observer with this id. -/
  | observing (id : Nat)
  | closed
  deriving DecidableEq

/-- What something that happens on a connection leads to. -/
structure Connection.Step (σ : Type) where
  connection : Connection
  /-- The lines that are written right away. -/
  written : List String
  daemon : Daemon σ
  report : Option Turn.Report := none

namespace Connection

variable {σ : Type}

/-- The connection ends, and makes room for another one. -/
def finish (d : Daemon σ) (written : List String) : Step σ :=
  { connection := .closed, written := written, daemon := { d with slots := d.slots.countOut } }

/-- A new connection, refused if there are too many already. -/
def arrive (d : Daemon σ) : Step σ :=
  let (slots, hasRoom) := d.slots.countIn
  let d := { d with slots := slots }
  if hasRoom then { connection := .requests 0, written := [], daemon := d }
  else finish d [(Reply.refusal .tooManyConnections).line]

/-- A line on a connection that is not an observer's. -/
def receiveLine (outside : Outside σ) (setup : Daemon.Setup) (served : Nat) (line : Bytes)
    (d : Daemon σ) : Step σ :=
  match Command.ofLine line with
  | .error p =>
    { connection := .requests (served + 1), written := [(Reply.refusal p).line], daemon := d }
  | .ok .subscribe =>
    match d.watch.subscribe with
    | (w, .error p) => finish { d with watch := w } [(Reply.refusal p).line]
    | (w, .ok id) => { connection := .observing id, written := [], daemon := { d with watch := w } }
  | .ok c =>
    let h := d.carryOut outside setup c
    { connection := .requests (served + 1), written := [h.reply.line], daemon := h.daemon
      report := h.report }

/-- The end of an observer, which still gets the lines that are in its mailbox. -/
def stopObserving (id : Nat) (d : Daemon σ) : Step σ :=
  let (feed, lines) := (d.watch.feed.remove id).1.drain id
  finish { d with watch := { d.watch with feed := feed } } lines

/-- A line on the connection of an observer. The reply is offered to the observer. -/
def observeLine (outside : Outside σ) (setup : Daemon.Setup) (id : Nat) (line : Bytes)
    (d : Daemon σ) : Step σ :=
  let h : Daemon.Handled σ := match Command.ofLine line with
    | .error p => { daemon := d, reply := .refusal p }
    | .ok c => d.carryOut outside setup c
  let (feed, delivered) := h.daemon.watch.feed.sendTo id h.reply.line
  let d := { h.daemon with watch := { h.daemon.watch with feed := feed } }
  if delivered then
    { connection := .observing id, written := [], daemon := d, report := h.report }
  else { stopObserving id d with report := h.report }

/-- What is read on a connection. A connection that sent requests may fall silent. -/
def receive (outside : Outside σ) (setup : Daemon.Setup) (c : Connection) (r : Received)
    (d : Daemon σ) : Step σ :=
  match c, r with
  | .closed, _ | _, .waiting => { connection := c, written := [], daemon := d }
  | .requests served, .line line => receiveLine outside setup served line d
  | .requests _, .ended => finish d []
  | .requests served, .refused p =>
    match p with
    | .timedOut => finish d (if 0 < served then [] else [(Reply.refusal p).line])
    | p => finish d [(Reply.refusal p).line]
  | .observing id, .line line => observeLine outside setup id line d
  | .observing id, .ended | .observing id, .refused _ => stopObserving id d

/-- The lines that an observer's connection writes next: all that are in the mailbox. It ends
once the observer is off the list. -/
def flush (c : Connection) (d : Daemon σ) : Step σ :=
  match c with
  | .observing id =>
    if (d.watch.feed.find? id).any (·.listed) then
      let (feed, lines) := d.watch.feed.drain id
      { connection := c, written := lines
        daemon := { d with watch := { d.watch with feed := feed } } }
    else stopObserving id d
  | c => { connection := c, written := [], daemon := d }

end Connection

end SessionWatch
