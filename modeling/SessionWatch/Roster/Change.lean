/-
# Changes of the roster

Every request that changes the roster is a function from the roster and the
time to the roster after it, the event that observers are told, and the
answer. A refused request tells nothing.

The end of a turn is decided outside and may take long, so it comes in two
parts: a ticket taken at its beginning, and a result that is put down only if
the state of the session has not been set since.

Key definitions: `Roster.Outcome`, `Roster.register`, `Roster.setState`,
`Roster.Ticket`, `Roster.beginStop`, `Roster.commitStop`, `Roster.mute`,
`Roster.undoMute`.
-/
import SessionWatch.Roster.Basic

namespace SessionWatch.Roster

/-- What a request leads to. -/
structure Outcome (α : Type) where
  roster : Roster
  event : Option Event
  result : Except Problem α

/-- Nothing changes. -/
def refuse {α : Type} (ro : Roster) (p : Problem) : Outcome α := ⟨ro, none, .error p⟩

/-- The roster after a revision is taken. -/
def nextRevision (ro : Roster) : Roster := { ro with lastRevision := ro.lastRevision + 1 }

/-- Adds a session, or starts the one with this id afresh. -/
def register (ro : Roster) (r : Registration) (now : Instant) : Outcome Session :=
  let s := Session.fresh r now
  ⟨ro.nextRevision.put r.id ⟨s, ro.lastRevision + 1⟩,
    some (.sessionAdded s (ro.find? r.id).isSome), .ok s⟩

/-- Takes a session off; whether it was there is the answer. -/
def unregister (ro : Roster) (id : String) : Outcome Bool :=
  match ro.find? id with
  | none => ⟨ro, none, .ok false⟩
  | some _ => ⟨{ ro with entries := ro.others id }, some (.sessionRemoved id), .ok true⟩

/-- An entry whose state is set. -/
def Entry.withState (e : Entry) (s : State) (revision : Nat) (now : Instant) : Entry :=
  ⟨{ e.session with state := s, updatedAt := now, seenAt := now }, revision⟩

/-- Sets the state of the session of an entry, with the revision just taken. -/
def putState (ro : Roster) (id : String) (e : Entry) (s : State) (now : Instant) :
    Roster × Session × Event :=
  let e' := e.withState s ro.lastRevision now
  (ro.put id e', e'.session, .stateChanged e'.session.id e.session.state s e'.session)

/-- Sets the state of a session. A revision is taken even if there is no such session. -/
def setState (ro : Roster) (id : String) (s : State) (now : Instant) : Outcome Session :=
  let ro := ro.nextRevision
  match ro.find? id with
  | none => ro.refuse (.unknownSession id)
  | some e =>
    let (ro, session, event) := ro.putState id e s now
    ⟨ro, some event, .ok session⟩

/-- A session as it was when its turn ended, and the revision it had. -/
structure Ticket where
  session : Session
  revision : Nat
  deriving DecidableEq

/-- The ticket for the end of a turn. -/
def beginStop (ro : Roster) (id : String) : Except Problem Ticket :=
  match ro.find? id with
  | none => .error (.unknownSession id)
  | some e => .ok ⟨e.session, e.revision⟩

/-- What became of a result, with the state that the session is in. -/
inductive StopResult where
  | committed (s : State)
  /-- The state was set after the ticket was taken. -/
  | superseded (s : State)
  deriving DecidableEq

/-- The state that the session is in. -/
def StopResult.state : StopResult → State
  | .committed s | .superseded s => s

/-- Puts down the result of a turn's end, unless the session has another revision by now. -/
def commitStop (ro : Roster) (t : Ticket) (s : State) (now : Instant) : Outcome StopResult :=
  let ro := ro.nextRevision
  match ro.find? t.session.id with
  | none => ro.refuse (.unknownSession t.session.id)
  | some e =>
    if e.revision = t.revision then
      let (ro, _, event) := ro.putState t.session.id e s now
      ⟨ro, some event, .ok (.committed s)⟩
    else ⟨ro, none, .ok (.superseded e.session.state)⟩

/-- Replaces the todos of a session. -/
def setTodos (ro : Roster) (id : String) (todos : List String) (now : Instant) : Outcome Unit :=
  match ro.find? id with
  | none => ro.refuse (.unknownSession id)
  | some e =>
    let s := { e.session with todos := todos, updatedAt := now, seenAt := now }
    ⟨ro.put id { e with session := s }, some (.todosChanged id todos), .ok ()⟩

/-- Notes that a session was heard of, which observers are not told. -/
def touch (ro : Roster) (id : String) (now : Instant) : Outcome Unit :=
  match ro.find? id with
  | none => ro.refuse (.unknownSession id)
  | some e => ⟨ro.put id { e with session := { e.session with seenAt := now } }, none, .ok ()⟩

/-- Whether the last mute is of this thing. -/
def lastMutedIs (ro : Roster) (kind : MuteKind) (id : String) : Bool :=
  ro.lastMuted.any fun r => r.kind = kind && r.id = id

/-- Turns the mute flag of a thing over and answers with the new one. A mute can be undone
until the thing is unmuted. -/
def mute (ro : Roster) (kind : MuteKind) (id : String) (now : Instant) : Outcome Bool :=
  let flag := !ro.isMuted kind id
  match ro.setMuted? kind id flag with
  | none => ro.refuse (.unknownSession id)
  | some ro' =>
    let last := if flag then some ⟨kind, id, now⟩
      else if ro.lastMutedIs kind id then none else ro.lastMuted
    ⟨{ ro' with lastMuted := last }, some (.muteChanged kind id flag), .ok flag⟩

/-- Undoes the last mute. A session that is gone by now has no flag to take back. -/
def undoMute (ro : Roster) : Outcome MuteRecord :=
  match ro.lastMuted with
  | none => ro.refuse .nothingToUndo
  | some r =>
    let ro := { ro with lastMuted := none }
    match ro.setMuted? r.kind r.id false with
    | none => ⟨ro, none, .ok r⟩
    | some ro => ⟨ro, some (.muteChanged r.kind r.id false), .ok r⟩

/-- Forgets the last mute, which stays in force. -/
def clearLastMuted (ro : Roster) : Roster := { ro with lastMuted := none }

end SessionWatch.Roster
