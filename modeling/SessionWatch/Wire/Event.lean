/-
# Events

Observers get one line for every committed change, and first of all the state
they start from. Each line names its kind under `event`.

Key definitions: `Event`, `Event.line`, `Event.decode`.
-/
import SessionWatch.Schema.Tagged
import SessionWatch.Wire.Command

namespace SessionWatch

/-- What observers are told. -/
inductive Event where
  | initialState (sessions : List Session) (lastMuted : Option MuteRecord)
  | sessionAdded (session : Session) (replaced : Bool)
  | sessionRemoved (id : String)
  | stateChanged (id : String) (old new : State) (session : Session)
  | todosChanged (id : String) (todos : List String)
  | muteChanged (kind : MuteKind) (id : String) (muted : Bool)
  deriving DecidableEq

namespace Event

/-- The kinds of event. -/
inductive Kind where
  | initialState
  | sessionAdded
  | sessionRemoved
  | stateChanged
  | todosChanged
  | muteChanged
  deriving DecidableEq

def Kind.name : Kind → String
  | .initialState => "initial_state"
  | .sessionAdded => "session_added"
  | .sessionRemoved => "session_removed"
  | .stateChanged => "state_changed"
  | .todosChanged => "todos_changed"
  | .muteChanged => "mute_changed"

def Kind.naming : Naming Kind :=
  ⟨[.initialState, .sessionAdded, .sessionRemoved, .stateChanged, .todosChanged, .muteChanged],
   name, none⟩

def kind : Event → Kind
  | initialState _ _ => .initialState
  | sessionAdded _ _ => .sessionAdded
  | sessionRemoved _ => .sessionRemoved
  | stateChanged _ _ _ _ => .stateChanged
  | todosChanged _ _ => .todosChanged
  | muteChanged _ _ _ => .muteChanged

/-- The name of an event on the wire. -/
def name (e : Event) : String := e.kind.name

/-- The session, or the other thing, that an event is about. -/
def subjectId : Event → Option String
  | initialState _ _ => none
  | sessionAdded s _ => some s.id
  | sessionRemoved id | stateChanged id _ _ _ | todosChanged id _ | muteChanged _ id _ => some id

/-! ## Fields -/

def initialStateShape : Shape (List Session × Option MuteRecord) :=
  (Shape.record "struct variant BroadcastEvent::InitialState"
    (.plain "sessions" (.list Session.shape)
    (.cons "last_muted" [] (.optional MuteRecord.shape) (.implied none) (fun _ => false)
    .nil))).via
    (fun (sessions, last, ()) => (sessions, last)) (fun (sessions, last) => (sessions, last, ()))

def sessionAddedShape : Shape (Session × Bool) :=
  (Shape.record "struct variant BroadcastEvent::SessionAdded"
    (.plain "session" Session.shape (.plain "replaced" .flag .nil))).via
    (fun (s, replaced, ()) => (s, replaced)) (fun (s, replaced) => (s, replaced, ()))

def sessionRemovedShape : Shape String :=
  (Shape.record "struct variant BroadcastEvent::SessionRemoved" (.plain "id" textShape .nil)).via
    (fun (id, ()) => id) (fun id => (id, ()))

def stateChangedShape : Shape (String × State × State × Session) :=
  (Shape.record "struct variant BroadcastEvent::StateChanged"
    (.plain "id" textShape (.plain "old_state" (.oneOf State.naming)
    (.plain "new_state" (.oneOf State.naming) (.plain "session" Session.shape .nil))))).via
    (fun (id, old, new, s, ()) => (id, old, new, s))
    (fun (id, old, new, s) => (id, old, new, s, ()))

def todosChangedShape : Shape (String × List String) :=
  (Shape.record "struct variant BroadcastEvent::TodosChanged"
    (.plain "id" textShape (.plain "todos" (.list textShape) .nil))).via
    (fun (id, todos, ()) => (id, todos)) (fun (id, todos) => (id, todos, ()))

def muteChangedShape : Shape (MuteKind × String × Bool) :=
  (Shape.record "struct variant BroadcastEvent::MuteChanged"
    (.plain "kind" (.oneOf MuteKind.naming) (.plain "id" textShape
    (.plain "muted" .flag .nil)))).via
    (fun (kind, id, muted, ()) => (kind, id, muted))
    (fun (kind, id, muted) => (kind, id, muted, ()))

/-- The event of a kind whose fields are the members of an object or the items of a list. -/
def ofFields : Kind → Json → Except Json.Mismatch Event
  | .initialState, v => (initialStateShape.ofJson .buffered v).map fun p => initialState p.1 p.2
  | .sessionAdded, v => (sessionAddedShape.ofJson .buffered v).map fun p => sessionAdded p.1 p.2
  | .sessionRemoved, v => (sessionRemovedShape.ofJson .buffered v).map sessionRemoved
  | .stateChanged, v =>
    (stateChangedShape.ofJson .buffered v).map fun p => stateChanged p.1 p.2.1 p.2.2.1 p.2.2.2
  | .todosChanged, v => (todosChangedShape.ofJson .buffered v).map fun p => todosChanged p.1 p.2
  | .muteChanged, v =>
    (muteChangedShape.ofJson .buffered v).map fun p => muteChanged p.1 p.2.1 p.2.2

/-- The fields of an event. -/
def fields : Event → Json
  | initialState sessions last => initialStateShape.toJson (sessions, last)
  | sessionAdded s replaced => sessionAddedShape.toJson (s, replaced)
  | sessionRemoved id => sessionRemovedShape.toJson id
  | stateChanged id old new s => stateChangedShape.toJson (id, old, new, s)
  | todosChanged id todos => todosChangedShape.toJson (id, todos)
  | muteChanged kind id muted => muteChangedShape.toJson (kind, id, muted)

def toJson (e : Event) : Json := .tagged "event" e.name e.fields

/-- The line of an event, without its line feed. -/
def line (e : Event) : String := e.toJson.compact

/-- The event that a text holds. -/
def decode (text : Bytes) : Except Json.Refusal Event :=
  decodeTagged "event" "internally tagged enum BroadcastEvent" Kind.naming ofFields text

end Event

end SessionWatch
