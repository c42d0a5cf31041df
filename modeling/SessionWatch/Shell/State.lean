/-
# What a shell has

A shell has variables, functions, open files, and a clock. What is outside of it
is shared with the shells and programs inside of it: the files of the system,
what can still be read, and what has been printed, each piece with its time and
the job that printed it.

Key definitions: `Shell.World`, `Shell.State`, `Shell.State.write`,
`Shell.State.consume`, `Shell.State.advance`, `Shell.State.parameter?`.
-/
import SessionWatch.Process.Basic
import SessionWatch.Process.Host
import SessionWatch.Shell.Echo
import SessionWatch.Shell.Script
import SessionWatch.Utility.Basic

namespace SessionWatch.Shell

open Utility (never)

/-- Something that was printed: when, and by which job. -/
structure Chunk where
  time : Nat
  job : Nat
  text : String
  deriving DecidableEq

/-- Something to be read: its pieces, each with the time at which it comes, and when it ends. -/
structure Source where
  pieces : List (Nat × List Char) := []
  finish : Nat := 0
  /-- What was read without being needed can be put back. -/
  seekable : Bool := false
  deriving DecidableEq

/-- What an open file is. -/
inductive End where
  /-- Nothing is read from it, and what is printed is lost. -/
  | null
  | source (number : Nat)
  | sink (number : Nat)
  | file (path : Path)
  deriving DecidableEq

/-- Something that runs beside a shell. -/
structure Job where
  id : Nat
  finish : Nat
  exit : Exit
  /-- The sinks that it keeps open. -/
  sinks : List Nat
  deriving DecidableEq

/-- A signal for a shell: when it comes, and which it is. -/
structure Doom where
  shell : Nat
  time : Nat
  signal : Nat
  deriving DecidableEq

/-- What shells and programs share. -/
structure World where
  host : Host
  files : Files
  sources : List (Nat × Source) := []
  /-- What was printed to each sink, latest first. -/
  sinks : List (Nat × List Chunk) := []
  /-- The number of the next source, sink or job. -/
  next : Nat := 10
  jobs : List Job := []
  dooms : List Doom := []

/-- How something that was run has ended, and what it has left. -/
structure Ended where
  world : World
  exit : Exit
  time : Nat
  /-- It would have printed for ever. -/
  endless : Bool := false

/-- How a shell goes on. -/
inductive Flow where
  | on
  | exits (e : Exit)
  | returns
  | breaks (loops : Nat)
  | continues (loops : Nat)
  deriving DecidableEq

structure Variable where
  name : String
  value : Option String
  exported : Bool := false
  fixed : Bool := false
  deriving DecidableEq

structure State where
  world : World
  /-- The open files by their numbers. -/
  ends : List (Nat × End)
  vars : List Variable := []
  functions : List (String × Script) := []
  options : List Char := []
  /-- What is done about signals; zero stands for the end of the shell. -/
  traps : List (Nat × String) := []
  /-- The name of the script and its arguments. -/
  name : String := "sh"
  arguments : List String := []
  directory : Path := []
  now : Nat := 0
  status : Nat := 0
  flow : Flow := .on
  /-- The number of the shell, and that of the job that it is part of. -/
  shell : Nat := 1
  job : Nat := 1
  /-- The shells that it is a program of. -/
  above : List Nat := []
  /-- It is a copy of the shell. -/
  inner : Bool := false
  /-- The jobs that it has started, latest first. -/
  started : List Nat := []
  loops : Nat := 0
  /-- The variables that end with each function, as they were before it. -/
  locals : List (List (String × Option Variable)) := []
  line : Nat := 1
  /-- The command of the shell that is at work. -/
  speaker : String := ""
  echo : Echo := .escapes
  /-- The status of the last script whose output was taken. -/
  taken : Option Nat := none
  /-- The argument whose options are read next, and how far they have been read. -/
  optionIndex : Nat := 1
  optionPlace : Nat := 0
  /-- Since when the shell has been nothing but a program in its place, and the sinks that this
  program has open. -/
  tail : Option (Nat × List Nat) := none
  /-- It would have printed for ever. -/
  endless : Bool := false

/-! ## Time -/

namespace State

def isOn (s : State) : Bool := s.flow = .on

/-- What is to be done about a signal; nobody can do anything about two of them. -/
def trap? (s : State) (signal : Nat) : Option String :=
  if signal = 9 ∨ signal = 19 then none else s.traps.lookup signal

/-- The first signal up to a time that ends the shell. -/
def doom? (s : State) (time : Nat) : Option Doom :=
  let mine := s.world.dooms.filter fun d =>
    d.shell = s.shell && d.time ≤ time && (s.trap? d.signal).isNone
  (mine.mergeSort fun a b => a.time ≤ b.time).head?

/-- Time passes up to a moment, unless a signal ends the shell before. -/
def advance (s : State) (time : Nat) : State :=
  let now := max s.now time
  match s.flow with
  | .exits _ => { s with now := now }
  | _ =>
    match if s.inner then none else s.doom? now with
    | none => { s with now := now }
    | some d => { s with now := max s.now d.time, flow := .exits (.signal d.signal) }

/-- A shell that goes on for ever, unless a signal ends it. -/
def giveUp (s : State) : State :=
  let s := s.advance never
  if s.now < never then s else { s with flow := .exits (.code 0), endless := true }

/-- The shell ends with a status. -/
def exit (s : State) (code : Nat) : State := { s with flow := .exits (.code (code % 256)) }

/-! ## Files -/

def end? (s : State) (file : Nat) : Option End := s.ends.lookup file

def setEnd (s : State) (file : Nat) (e : Option End) : State :=
  let others := s.ends.filter (·.1 ≠ file)
  { s with ends := match e with
    | some e => (file, e) :: others
    | none => others }

/-- The files of the system, seen from the directory of the shell. -/
def files (s : State) : Files := { s.world.files with here := s.directory }

/-- What stands at a path. -/
def look (s : State) (path : String) : Look := s.world.host.look s.files path

/-- Prints to an open file; none if it is not open for that. -/
def write (s : State) (file : Nat) (text : String) : Option State :=
  match s.end? file with
  | none | some (.source _) => none
  | some .null => some s
  | some (.sink k) =>
    if text = "" then some s
    else
      let chunk : Chunk := ⟨s.now, s.job, text⟩
      let sinks := (k, chunk :: (s.world.sinks.lookup k).getD [])
        :: s.world.sinks.filter (·.1 ≠ k)
      some { s with world := { s.world with sinks := sinks } }
  | some (.file p) =>
    let before := (s.world.files.content? p).getD []
    let files := s.world.files.put p (before ++ Text.toBytes text)
    some { s with world := { s.world with files := files } }

/-- Prints if it can. -/
def print (s : State) (file : Nat) (text : String) : State := (s.write file text).getD s

/-- Complains on the errors, in the name of the command of the shell that is at work. -/
def complain (s : State) (text : String) : State :=
  let speaker := if s.speaker = "" then "" else s.speaker ++ ": "
  s.print 2 (s.name ++ ": " ++ toString s.line ++ ": " ++ speaker ++ text ++ "\n")

/-- Complains and ends with a status. -/
def fail (s : State) (text : String) : State := (s.complain text).exit 2

/-- A new number for a source, a sink or a job. -/
def fresh (s : State) : Nat × State :=
  (s.world.next, { s with world := { s.world with next := s.world.next + 1 } })

def setSource (s : State) (k : Nat) (source : Source) : State :=
  { s with world := { s.world with
    sources := (k, source) :: s.world.sources.filter (·.1 ≠ k) } }

/-- Something new to be read. -/
def newSource (s : State) (source : Source) : End × State :=
  let (k, s) := s.fresh
  (.source k, s.setSource k source)

/-- What can be read from an open file. -/
def source? (s : State) (file : Nat) : Option Source :=
  match s.end? file with
  | some (.source k) => s.world.sources.lookup k
  | _ => none

/-- All that can be read from an open file. -/
def readable (s : State) (file : Nat) : List Char :=
  match ((s.source? file).getD {}).pieces with
  | [(_, cs)] => cs
  | pieces => pieces.flatMap (·.2)

/-- Pieces without the first `n` characters, and when these had come. -/
def dropPieces : (n : Nat) → (time : Nat) → List (Nat × List Char) → Nat × List (Nat × List Char)
  | _, time, [] => (time, [])
  | n, time, (t, cs) :: rest =>
    if n = 0 then (time, (t, cs) :: rest)
    else match cs.drop n with
      | [] => dropPieces (n - cs.length) (max time t) rest
      | left => (max time t, (t, left) :: rest)

/-- Pieces without `n` more characters, as far as they have come at a time. -/
def dropCome : (n : Nat) → (time : Nat) → List (Nat × List Char) → List (Nat × List Char)
  | _, _, [] => []
  | n, time, (t, cs) :: rest =>
    if n = 0 ∨ time < t then (t, cs) :: rest
    else if cs.length ≤ n then dropCome (n - cs.length) time rest
    else (t, cs.drop n) :: rest

/-- Reads some characters from an open file. As much is read at once as a block holds and has
come. -/
def take (s : State) (file needed block : Nat) : State :=
  match s.end? file with
  | some (.source k) =>
    let source := (s.world.sources.lookup k).getD {}
    let (time, pieces) := dropPieces needed 0 source.pieces
    let ahead := if source.seekable then 0 else (block - needed % block) % block
    let pieces := dropCome ahead (max s.now time) pieces
    (s.setSource k { source with pieces := pieces }).advance time
  | _ => s

/-- Reads all that an open file has. -/
def drain (s : State) (file : Nat) : State :=
  match s.end? file with
  | some (.source k) =>
    let source := (s.world.sources.lookup k).getD {}
    (s.setSource k { source with pieces := [] }).advance source.finish
  | _ => s

/-- Reads from an open file, up to what is left, or to its end. -/
def consume (s : State) (file : Nat) (rest : Option (List Char)) (block : Nat) : State :=
  match rest with
  | none => s.drain file
  | some rest => s.take file ((s.readable file).length - rest.length) block

/-- What was printed to a sink, in the order of time. -/
def printed (w : World) (sink : Nat) : List Chunk :=
  ((w.sinks.lookup sink).getD []).reverse.mergeSort fun a b => a.time ≤ b.time

/-- When nobody can print to a sink any more. -/
def closing (w : World) (sink : Nat) (time : Nat) : Nat :=
  ((w.jobs.filter fun j => j.sinks.contains sink).map Job.finish).foldl max time

/-! ## Jobs -/

/-- The number that a shell or a job is known by. -/
def idText (id : Nat) : String := toString (4000 + id)

/-- A job ends earlier than it would have: what it printed later was never printed. -/
def cutJob (w : World) (id time : Nat) (exit : Exit) : World :=
  { w with
    jobs := w.jobs.map fun j =>
      if j.id = id ∧ time < j.finish then { j with finish := time, exit := exit } else j
    sinks := w.sinks.map fun p => (p.1, p.2.filter fun c => c.job ≠ id || c.time ≤ time) }

/-- The sinks that open files lead to. -/
def sinks (s : State) : List Nat :=
  s.ends.filterMap fun p => match p.2 with
    | .sink k => some k
    | _ => none

/-- A copy of the shell, for a part of a script that must not change the shell. What is to be
done about signals is forgotten, but not which of them are passed over. -/
def copy (s : State) : State :=
  { s with inner := true, traps := s.traps.filter (·.2 = ""), tail := none, taken := none }

/-- How a shell has ended. -/
def ended (s : State) : Ended where
  world := s.world
  exit := match s.flow with
    | .exits e => e
    | _ => .code s.status
  time := s.now
  endless := s.endless

/-- The shell becomes the program that has run in its place. -/
def become (s : State) (e : Ended) : State :=
  let t := { s with world := e.world, endless := e.endless, tail := some (s.now, s.sinks) }.advance
    e.time
  if t.isOn then { t with flow := .exits e.exit } else t

/-- The shell waits for what it has run. If a signal ends the shell meanwhile, what it has waited
for goes on without it, and keeps its files open. -/
def after (s : State) (e : Ended) : State :=
  let t := ({ s with world := e.world, status := e.exit.status }.advance e.time)
  if t.now < e.time then
    let (id, t) := t.fresh
    { t with world := { t.world with jobs := ⟨id, e.time, .code 0, s.sinks⟩ :: t.world.jobs } }
  else if never ≤ e.time ∧ t.isOn then t.giveUp
  else match e.exit with
    | .code _ => t
    | .signal n => if n = 2 ∨ n = 13 then t else t.print 2 (Signal.describe n ++ "\n")

/-! ## Variables -/

def lookup? (s : State) (name : String) : Option Variable :=
  s.vars.find? (·.name = name)

def value? (s : State) (name : String) : Option String := (s.lookup? name).bind Variable.value

def put (s : State) (v : Variable) : State :=
  { s with vars := v :: s.vars.filter (·.name ≠ v.name) }

/-- Sets a variable, unless it is fixed. -/
def set (s : State) (name value : String) : State :=
  let v := (s.lookup? name).getD { name := name, value := none }
  if v.fixed then s.fail (name ++ ": is read only")
  else
    let s := if name = "OPTIND" then
        { s with optionPlace := 0, optionIndex := (Utility.number? value).getD 1 }
      else s
    s.put { v with value := some value, exported := v.exported || s.options.contains 'a' }

/-- The characters that separate fields. -/
def separators (s : State) : String :=
  match s.lookup? "IFS" with
  | some v => v.value.getD " \t\n"
  | none => " \t\n"

/-- What stands between arguments that are put together. -/
def joint (s : State) : String := (s.separators.take 1).toString

/-- The value of a parameter, if it has one. -/
def parameter? (s : State) (name : String) : Option String :=
  match name with
  | "?" => some (toString s.status)
  | "#" => some (toString s.arguments.length)
  | "$" => some (idText s.shell)
  | "!" => s.started.head?.map idText
  | "-" => some (String.ofList s.options)
  | "@" | "*" => if s.arguments.isEmpty then none else some (s.joint.intercalate s.arguments)
  | "0" => some s.name
  | _ =>
    match Utility.number? name with
    | some n => s.arguments[n - 1]?
    | none => s.value? name

/-- The variables that programs are told about. -/
def environment (s : State) : List (String × String) :=
  s.vars.reverse.filterMap fun v =>
    if v.exported then v.value.map fun x => (v.name, x) else none

/-- The directories that programs are looked for in. -/
def searchDirs (s : State) : List String := ((s.value? "PATH").getD "").splitOn ":"

end State

end SessionWatch.Shell
