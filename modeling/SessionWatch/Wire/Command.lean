/-
# Commands

A request line is a JSON object whose `cmd` names the command; every command
has its own fields. `Command.accept` decides what a line asks for: the rules
are tried in a fixed order, and the first one that the line breaks is
reported.

Key definitions: `Command`, `Command.accept`, `Command.line`,
`Command.targetId`.
-/
import SessionWatch.Json.Printer
import SessionWatch.Json.Reader
import SessionWatch.Schema.FromValue
import SessionWatch.Schema.Write
import SessionWatch.Text.Blank
import SessionWatch.Wire.Problem

namespace SessionWatch

/-- A session to be registered. -/
structure Registration where
  id : String
  label : String
  cwd : String
  agent : Agent
  deriving DecidableEq

/-- The end of a turn, with the message that ended it or the transcript that has it. -/
structure TurnEnd where
  id : String
  transcriptPath : Option String
  message : Option String
  deriving DecidableEq

/-- What a line asks of the daemon. -/
inductive Command where
  | register (registration : Registration)
  | unregister (id : String)
  | state (id : String) (state : State)
  | stop (turn : TurnEnd)
  | todos (id : String) (todos : List String)
  | query (filter : Option State)
  | heartbeat (id : String)
  | mute (id : String) (kind : MuteKind)
  | undoMute
  | clearLastMuted
  | subscribe
  | health
  deriving DecidableEq

namespace Command

/-- The kinds of command. -/
inductive Kind where
  | register
  | unregister
  | state
  | stop
  | todos
  | query
  | heartbeat
  | mute
  | undoMute
  | clearLastMuted
  | subscribe
  | health
  deriving DecidableEq

def Kind.name : Kind → String
  | .register => "register"
  | .unregister => "unregister"
  | .state => "state"
  | .stop => "stop"
  | .todos => "todos"
  | .query => "query"
  | .heartbeat => "heartbeat"
  | .mute => "mute"
  | .undoMute => "undo_mute"
  | .clearLastMuted => "clear_last_muted"
  | .subscribe => "subscribe"
  | .health => "health"

def Kind.all : List Kind :=
  [.register, .unregister, .state, .stop, .todos, .query, .heartbeat, .mute, .undoMute,
   .clearLastMuted, .subscribe, .health]

def Kind.naming : Naming Kind := ⟨all, name, none⟩

def kind : Command → Kind
  | register _ => .register
  | unregister _ => .unregister
  | state _ _ => .state
  | stop _ => .stop
  | todos _ _ => .todos
  | query _ => .query
  | heartbeat _ => .heartbeat
  | mute _ _ => .mute
  | undoMute => .undoMute
  | clearLastMuted => .clearLastMuted
  | subscribe => .subscribe
  | health => .health

/-- The name of a command on the wire. -/
def name (c : Command) : String := c.kind.name

/-- The session, or the other thing, that a command is about. -/
def targetId : Command → Option String
  | register r => some r.id
  | stop t => some t.id
  | unregister id | state id _ | todos id _ | heartbeat id | mute id _ => some id
  | query _ | undoMute | clearLastMuted | subscribe | health => none

/-! ## Fields -/

def registrationShape : Shape Registration :=
  (Shape.record "fields of register"
    (.plain "id" textShape (.orElse "label" textShape ""
    (.cons "cwd" ["dir"] textShape .required (fun _ => false)
    (.cons "agent" ["agent_type"] (.oneOf Agent.naming) (.defaulted .claude) (fun _ => false)
    .nil))))).via
    (fun (id, label, cwd, agent, ()) => ⟨id, label, cwd, agent⟩)
    (fun r => (r.id, r.label, r.cwd, r.agent, ()))

def turnEndShape : Shape TurnEnd :=
  (Shape.record "fields of stop"
    (.plain "id" textShape (.maybe "transcript_path" textShape
    (.maybe "message" textShape .nil)))).via
    (fun (id, path, message, ()) => ⟨id, path, message⟩)
    (fun t => (t.id, t.transcriptPath, t.message, ()))

def unregisterShape : Shape String :=
  (Shape.record "fields of unregister" (.plain "id" textShape .nil)).via
    (fun (id, ()) => id) (fun id => (id, ()))

def stateShape : Shape (String × State) :=
  (Shape.record "fields of state"
    (.plain "id" textShape (.plain "state" (.oneOf State.naming) .nil))).via
    (fun (id, s, ()) => (id, s)) (fun (id, s) => (id, s, ()))

def todosShape : Shape (String × List String) :=
  (Shape.record "fields of todos"
    (.plain "id" textShape (.plain "todos" (.list textShape) .nil))).via
    (fun (id, ts, ()) => (id, ts)) (fun (id, ts) => (id, ts, ()))

/-- The state that a query is limited to; a blank name is no limit. -/
def checkFilter : Option String → Except String (Option State)
  | none => .ok none
  | some name =>
    let name := Text.trim name
    if name = "" then .ok none else (State.parse name).map some

def queryShape : Shape (Option State) :=
  (Shape.record "fields of query"
    (.cons "state" ["filter"]
      (.refine (.optional textShape) checkFilter (Option.map State.name))
      (.defaulted none) Option.isNone .nil)).via
    (fun (filter, ()) => filter) (fun filter => (filter, ()))

def heartbeatShape : Shape String :=
  (Shape.record "fields of heartbeat" (.plain "id" textShape .nil)).via
    (fun (id, ()) => id) (fun id => (id, ()))

def muteShape : Shape (String × MuteKind) :=
  (Shape.record "fields of mute"
    (.plain "id" textShape (.orElse "kind" (.oneOf MuteKind.naming) .session .nil))).via
    (fun (id, kind, ()) => (id, kind)) (fun (id, kind) => (id, kind, ()))

/-- The command of a kind whose fields are the members of an object. -/
def ofFields : Kind → Json → Except Json.Mismatch Command
  | .register, v => (registrationShape.ofJson .buffered v).map register
  | .unregister, v => (unregisterShape.ofJson .buffered v).map unregister
  | .state, v => (stateShape.ofJson .buffered v).map fun p => state p.1 p.2
  | .stop, v => (turnEndShape.ofJson .buffered v).map stop
  | .todos, v => (todosShape.ofJson .buffered v).map fun p => todos p.1 p.2
  | .query, v => (queryShape.ofJson .buffered v).map query
  | .heartbeat, v => (heartbeatShape.ofJson .buffered v).map heartbeat
  | .mute, v => (muteShape.ofJson .buffered v).map fun p => mute p.1 p.2
  | .undoMute, _ => .ok undoMute
  | .clearLastMuted, _ => .ok clearLastMuted
  | .subscribe, _ => .ok subscribe
  | .health, _ => .ok health

/-- The fields of a command. -/
def fields : Command → Json
  | register r => registrationShape.toJson r
  | unregister id => unregisterShape.toJson id
  | state id s => stateShape.toJson (id, s)
  | stop t => turnEndShape.toJson t
  | todos id ts => todosShape.toJson (id, ts)
  | query filter => queryShape.toJson filter
  | heartbeat id => heartbeatShape.toJson id
  | mute id kind => muteShape.toJson (id, kind)
  | undoMute | clearLastMuted | subscribe | health => .object []

end Command

/-- The members of an object; none of another value. -/
def Json.members : Json → List (String × Json)
  | .object members => members
  | _ => []

/-- An object with a tag in front. -/
def Json.tagged (tag name : String) (fields : Json) : Json :=
  .object ((tag, .string name) :: fields.members)

namespace Command

def toJson (c : Command) : Json := .tagged "cmd" c.name c.fields

/-- The request line of a command, without its line feed. -/
def line (c : Command) : String := c.toJson.compact

/-! ## Acceptance -/

/-- The id of a command is not blank and not too long. -/
def checkId (id : String) : Except Problem Unit :=
  if Text.allBlank id then .error .idMissing
  else if maxIdBytes < id.utf8ByteSize then .error .idTooLong
  else .ok ()

/-- What the values of a command have to satisfy. -/
def check (c : Command) : Except Problem Unit :=
  match c.targetId.elim (.ok ()) checkId, c with
  | .error p, _ => .error p
  | .ok (), register r => if Text.allBlank r.cwd then .error .directoryMissing else .ok ()
  | .ok (), _ => .ok ()

/-- The command that a value asks for, its values not checked yet. -/
def ofJson (v : Json) : Except Problem Command :=
  match v with
  | .object members =>
    match Json.find? "cmd" members with
    | none => .error .commandMissing
    | some (.string name) =>
      match Kind.naming.find? name with
      | none => .error (.unknownCommand name)
      | some kind =>
        (ofFields kind (.object (members.filter fun m => m.1 ≠ "cmd"))).mapError (.badFields name)
    | some _ => .error .commandNotText
  | _ => .error .notObject

/-- What a request line asks for. -/
def accept (line : Bytes) : Except Problem Command :=
  match Json.parse line with
  | .error why => .error (.notJson why)
  | .ok v =>
    match ofJson v.canonical with
    | .error p => .error p
    | .ok c => (check c).map fun () => c

/-- Blank in the sense of ASCII: what a line without a request is made of. -/
def isAsciiBlank (b : UInt8) : Bool := b = 0x20 || b = 0x09 || b = 0x0A || b = 0x0C || b = 0x0D

/-- What a line on a connection asks for; a blank line is a request without a body. -/
def ofLine (line : Bytes) : Except Problem Command :=
  if line.all isAsciiBlank then .error .emptyRequest else accept line

end Command

end SessionWatch
