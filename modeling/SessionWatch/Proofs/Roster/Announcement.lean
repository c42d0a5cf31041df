/-
# What a request announces

Whether a request is announced, and as what, can be read off the request and
its answer: a registration is always announced, all other requests only if
they are granted, and some not even then. What is announced is the kind of the
event and what it is about.

Key definitions: `Event.heading`, `Roster.announced`, `Roster.SetsState`.
Key theorems: `Roster.heading_ask`, `Roster.setsState_iff`.
-/
import SessionWatch.Proofs.Roster.Effect

namespace SessionWatch

/-- The kind of an event, and what it is about. -/
def Event.heading (e : Event) : Event.Kind × Option String := (e.kind, e.subjectId)

namespace Roster

/-- What a request with this answer announces. Nothing is announced of a request that was
refused, of a session that was not there to be taken off, of a result that came too late, of
a mute that is undone when its session is gone, and of requests that change nothing that
observers are told of. -/
def announced (ro : Roster) : Request → Except Problem Answer → Option (Event.Kind × Option String)
  | .register r, .ok _ => some (.sessionAdded, r.id)
  | .unregister id, .ok (.flag true) => some (.sessionRemoved, id)
  | .setState id _, .ok _ => some (.stateChanged, id)
  | .commitStop t _, .ok (.stop (.committed _)) => some (.stateChanged, t.session.id)
  | .setTodos id _, .ok _ => some (.todosChanged, id)
  | .mute _ id, .ok _ => some (.muteChanged, id)
  | .undoMute, .ok (.record r) =>
    if r.kind = .session ∧ ro.find? r.id = none then none else some (.muteChanged, r.id)
  | _, _ => none

/-- The request put the state of a session down, be it for the first time. -/
def SetsState (id : String) : Request → Except Problem Answer → Prop
  | .register r, .ok _ => r.id = id
  | .setState id' _, .ok _ => id' = id
  | .commitStop t _, .ok (.stop (.committed _)) => t.session.id = id
  | _, _ => False

theorem setMuted?_eq_none_iff {ro : Roster} {kind : MuteKind} {id : String} {flag : Bool} :
    ro.setMuted? kind id flag = none ↔ kind = .session ∧ ro.find? id = none := by
  cases kind <;> simp [setMuted?]

/-- **What is told of a request is what its answer announces.** -/
theorem heading_ask {ro : Roster} (h : ro.Sound) (now : Instant) (r : Request) :
    (ro.ask now r).event.map Event.heading = ro.announced r (ro.ask now r).result := by
  cases r with
  | register r => rfl
  | beginStop id =>
    simp only [ask]
    cases ro.beginStop id <;> rfl
  | clearLastMuted => rfl
  | unregister id =>
    simp only [ask, unregister]
    cases ro.find? id <;> rfl
  | setState id s =>
    simp only [ask, setState, find?_nextRevision]
    cases hf : ro.find? id with
    | none => rfl
    | some e =>
      have hid := h.id_eq hf
      simp [Outcome.map, Except.map, announced, putState, Event.heading, Event.kind,
        Event.subjectId, Entry.withState, hid]
  | commitStop t s =>
    simp only [ask, commitStop, find?_nextRevision]
    cases hf : ro.find? t.session.id with
    | none => rfl
    | some e =>
      have hid := h.id_eq hf
      by_cases hr : e.revision = t.revision
      · simp [hr, Outcome.map, Except.map, announced, putState, Event.heading, Event.kind,
          Event.subjectId, Entry.withState, hid]
      · simp [hr, Outcome.map, Except.map, announced]
  | setTodos id todos =>
    simp only [ask, setTodos]
    cases ro.find? id <;> rfl
  | touch id =>
    simp only [ask, touch]
    cases ro.find? id <;> rfl
  | mute kind id =>
    simp only [ask, mute]
    cases ro.setMuted? kind id (!ro.isMuted kind id) <;> rfl
  | undoMute =>
    simp only [ask, undoMute]
    cases ro.lastMuted with
    | none => rfl
    | some r =>
      dsimp only
      have gone : ({ ro with lastMuted := none } : Roster).setMuted? r.kind r.id false = none ↔
          r.kind = .session ∧ ro.find? r.id = none := setMuted?_eq_none_iff
      cases hm : ({ ro with lastMuted := none } : Roster).setMuted? r.kind r.id false with
      | none =>
        show none = ite _ _ _
        rw [if_pos (gone.mp hm)]
      | some ro' =>
        have there : ¬ (r.kind = .session ∧ ro.find? r.id = none) := by
          rw [← gone, hm]
          simp
        show some (Event.Kind.muteChanged, some r.id) = ite _ _ _
        rw [if_neg there]

/-- The state of a session is put down exactly where observers are told that it was added or
that its state changed. -/
theorem setsState_iff {ro : Roster} {id : String} {r : Request} {result : Except Problem Answer} :
    SetsState id r result ↔
      ro.announced r result = some (.sessionAdded, some id) ∨
        ro.announced r result = some (.stateChanged, some id) := by
  cases r with
  | register | setState => cases result <;> simp [SetsState, announced]
  | unregister id' =>
    rcases result with p | _ | _ | (_ | _) | _ | _ | _ <;> simp [SetsState, announced]
  | commitStop t s =>
    rcases result with p | _ | _ | _ | _ | _ | (_ | _) <;> simp [SetsState, announced]
  | setTodos | mute | beginStop | touch | clearLastMuted =>
    cases result <;> simp [SetsState, announced]
  | undoMute =>
    rcases result with p | _ | _ | _ | r | _ | _ <;> simp [SetsState, announced]

end Roster

end SessionWatch
