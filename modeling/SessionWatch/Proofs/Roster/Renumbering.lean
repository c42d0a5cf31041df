/-
# Leaving revisions out

A request that is refused may still have taken a revision, which no session
then has. Nobody can tell. If the revisions after one that was given out are
all higher by the same amount, and so are those of the tickets that are taken
from then on, then every request is answered as before, and changes the same.
A ticket that was taken by then is the same in both numberings.

Key definitions: `Roster.spend`, `Roster.renumber`, `Roster.shift`,
`Roster.Request.shift`, `Roster.Outcome.Spares`.
Key theorems: `Roster.ask_shift`, `Roster.shift_of_sound`.
-/
import SessionWatch.Proofs.Roster.Mute

namespace SessionWatch.Roster

/-! ### Refusals -/

/-- The roster after `k` revisions were taken and given to no session. -/
def spend (ro : Roster) (k : Nat) : Roster := { ro with lastRevision := ro.lastRevision + k }

/-- If this is a refusal, it tells nothing and takes revisions of the roster at most. -/
def Outcome.Spares {α : Type} (o : Outcome α) (ro : Roster) : Prop :=
  ∀ p, o.result = .error p → o.event = none ∧ ∃ k, o.roster = ro.spend k

theorem spares_of_refuse {α : Type} (ro : Roster) (k : Nat) (p : Problem) :
    ((ro.spend k).refuse p : Outcome α).Spares ro :=
  fun _ _ => ⟨rfl, k, rfl⟩

theorem spares_of_ok {α : Type} {o : Outcome α} {ro : Roster} {a : α} (h : o.result = .ok a) :
    o.Spares ro := by
  intro p refused
  rw [h] at refused
  cases refused

section refusals

variable (ro : Roster) (id : String) (now : Instant)

theorem spares_register (r : Registration) : (ro.register r now).Spares ro := spares_of_ok rfl

theorem spares_unregister : (ro.unregister id).Spares ro := by
  rw [unregister]
  cases ro.find? id <;> exact spares_of_ok rfl

theorem spares_setState (s : State) : (ro.setState id s now).Spares ro := by
  simp only [setState, find?_nextRevision]
  cases ro.find? id with
  | none => exact spares_of_refuse ro 1 _
  | some e => exact spares_of_ok rfl

theorem spares_commitStop (t : Ticket) (s : State) : (ro.commitStop t s now).Spares ro := by
  simp only [commitStop, find?_nextRevision]
  cases ro.find? t.session.id with
  | none => exact spares_of_refuse ro 1 _
  | some e =>
    dsimp only
    split <;> exact spares_of_ok rfl

theorem spares_setTodos (todos : List String) : (ro.setTodos id todos now).Spares ro := by
  rw [setTodos]
  cases ro.find? id with
  | none => exact spares_of_refuse ro 0 _
  | some e => exact spares_of_ok rfl

theorem spares_touch : (ro.touch id now).Spares ro := by
  rw [touch]
  cases ro.find? id with
  | none => exact spares_of_refuse ro 0 _
  | some e => exact spares_of_ok rfl

theorem spares_mute (kind : MuteKind) : (ro.mute kind id now).Spares ro := by
  simp only [mute]
  cases ro.setMuted? kind id (!ro.isMuted kind id) with
  | none => exact spares_of_refuse ro 0 _
  | some ro' => exact spares_of_ok rfl

theorem spares_undoMute : ro.undoMute.Spares ro := by
  cases record : ro.lastMuted with
  | none =>
    rw [undoMute, record]
    exact spares_of_refuse ro 0 _
  | some r => exact spares_of_ok (result_undoMute.mpr record)

end refusals

/-! ### Numberings -/

/-- A revision, in the numbering in which those after `last` are higher by `k`. -/
def renumber (last k revision : Nat) : Nat := if revision ≤ last then revision else revision + k

section

variable (last k : Nat)

/-- The entry with its revision renumbered. -/
def Entry.shift (e : Entry) : Entry := { e with revision := renumber last k e.revision }

/-- The ticket with its revision renumbered. -/
def Ticket.shift (t : Ticket) : Ticket := { t with revision := renumber last k t.revision }

/-- The roster with its revisions renumbered, in which `k` of them were left out after `last`. -/
def shift (ro : Roster) : Roster :=
  { ro with
    entries := ro.entries.map fun p => (p.1, p.2.shift last k)
    lastRevision := ro.lastRevision + k }

/-- The request, with its ticket renumbered if it has one. -/
def Request.shift : Request → Request
  | .commitStop t s => .commitStop (t.shift last k) s
  | r => r

/-- The answer, with its ticket renumbered if it is one. -/
def Answer.shift : Answer → Answer
  | .ticket t => .ticket (t.shift last k)
  | a => a

/-- The outcome with the roster renumbered; what is told has no revisions. -/
def Outcome.shift {α : Type} (o : Outcome α) : Outcome α :=
  ⟨o.roster.shift last k, o.event, o.result⟩

/-! ### Revisions -/

@[simp] theorem renumber_inj {m n : Nat} : renumber last k m = renumber last k n ↔ m = n := by
  unfold renumber
  split <;> split <;> omega

theorem renumber_of_le {n : Nat} (h : n ≤ last) : renumber last k n = n := if_pos h

/-- Revisions that are given out after `last` are higher by `k`. -/
theorem renumber_succ {n : Nat} (h : last ≤ n) : renumber last k (n + 1) = n + k + 1 := by
  unfold renumber
  rw [if_neg (by omega)]
  omega

theorem Ticket.shift_of_le {t : Ticket} (h : t.revision ≤ last) : t.shift last k = t := by
  rw [Ticket.shift, renumber_of_le last k h]

/-! ### Rosters -/

variable (ro : Roster) (id : String)

@[simp] theorem find?_shift :
    (ro.shift last k).find? id = (ro.find? id).map (Entry.shift last k) := by
  show (ro.entries.map _).lookup id = _
  rw [find?]
  induction ro.entries with
  | nil => rfl
  | cons p entries ih =>
    rw [List.map_cons, List.lookup_cons, List.lookup_cons, ih]
    split <;> rfl

theorem others_shift :
    (ro.shift last k).others id = (ro.others id).map fun p => (p.1, p.2.shift last k) :=
  List.filter_map

theorem put_shift (e : Entry) :
    (ro.shift last k).put id (e.shift last k) = (ro.put id e).shift last k := by
  rw [put, others_shift]
  rfl

theorem nextRevision_shift : (ro.shift last k).nextRevision = ro.nextRevision.shift last k := by
  rw [nextRevision, nextRevision, shift, shift, Nat.add_right_comm]

theorem isMuted_shift (kind : MuteKind) :
    (ro.shift last k).isMuted kind id = ro.isMuted kind id := by
  cases kind with
  | session =>
    show ((ro.shift last k).find? id).any _ = (ro.find? id).any _
    rw [find?_shift, Option.any_map]
    rfl
  | pr | repo | author => rfl

theorem setMuted?_shift (kind : MuteKind) (flag : Bool) :
    (ro.shift last k).setMuted? kind id flag = (ro.setMuted? kind id flag).map (shift last k) := by
  cases kind with
  | session =>
    show ((ro.shift last k).find? id).map _ = ((ro.find? id).map _).map _
    rw [find?_shift, Option.map_map, Option.map_map]
    congr 1
    funext e
    exact put_shift last k ro id (e.withMuted flag)
  | pr | repo | author => rfl

/-! ### Requests -/

section requests

variable (now : Instant)

theorem unregister_shift :
    (ro.shift last k).unregister id = (ro.unregister id).shift last k := by
  simp only [unregister, find?_shift]
  cases ro.find? id with
  | none => rfl
  | some e =>
    simp only [Option.map_some, others_shift]
    rfl

theorem setTodos_shift (todos : List String) :
    (ro.shift last k).setTodos id todos now = (ro.setTodos id todos now).shift last k := by
  simp only [setTodos, find?_shift]
  cases ro.find? id with
  | none => rfl
  | some e => exact congrArg (Outcome.mk · _ _) (put_shift last k ro id (e.withTodos todos now))

theorem touch_shift :
    (ro.shift last k).touch id now = (ro.touch id now).shift last k := by
  simp only [touch, find?_shift]
  cases ro.find? id with
  | none => rfl
  | some e => exact congrArg (Outcome.mk · _ _) (put_shift last k ro id (e.seen now))

theorem mute_shift (kind : MuteKind) :
    (ro.shift last k).mute kind id now = (ro.mute kind id now).shift last k := by
  simp only [mute, isMuted_shift, setMuted?_shift]
  cases ro.setMuted? kind id (!ro.isMuted kind id) <;> rfl

theorem undoMute_shift : (ro.shift last k).undoMute = ro.undoMute.shift last k := by
  have record : (ro.shift last k).lastMuted = ro.lastMuted := rfl
  simp only [undoMute, record]
  cases ro.lastMuted with
  | none => rfl
  | some r =>
    have set : ({ ro.shift last k with lastMuted := none } : Roster).setMuted? r.kind r.id false =
        (({ ro with lastMuted := none } : Roster).setMuted? r.kind r.id false).map
          (shift last k) :=
      setMuted?_shift last k { ro with lastMuted := none } r.id r.kind false
    simp only [set]
    cases ({ ro with lastMuted := none } : Roster).setMuted? r.kind r.id false <;> rfl

variable {ro} (h : last ≤ ro.lastRevision)

include h

/-- An entry with the revision just taken. -/
theorem entry_shift (s : Session) :
    (⟨s, (ro.shift last k).lastRevision + 1⟩ : Entry) =
      Entry.shift last k ⟨s, ro.lastRevision + 1⟩ := by
  rw [Entry.shift, renumber_succ last k h]
  rfl

theorem register_shift (r : Registration) :
    (ro.shift last k).register r now = (ro.register r now).shift last k := by
  simp only [register, nextRevision_shift, entry_shift last k h, put_shift, find?_shift,
    Option.isSome_map]
  rfl

/-- A state that is set comes with the revision just taken. -/
theorem putState_shift (e : Entry) (s : State) :
    (ro.nextRevision.shift last k).putState id (e.shift last k) s now =
      let p := ro.nextRevision.putState id e s now
      (p.1.shift last k, p.2) := by
  have entry : (e.shift last k).withState s (ro.lastRevision + 1 + k) now =
      (e.withState s (ro.lastRevision + 1) now).shift last k := by
    rw [Nat.add_right_comm]
    exact entry_shift last k h (e.withState s (ro.lastRevision + 1) now).session
  have put := put_shift last k ro.nextRevision id (e.withState s (ro.lastRevision + 1) now)
  rw [← entry] at put
  exact congrArg (·, _) put

theorem setState_shift (s : State) :
    (ro.shift last k).setState id s now = (ro.setState id s now).shift last k := by
  simp only [setState, nextRevision_shift, find?_shift]
  cases ro.nextRevision.find? id with
  | none => rfl
  | some e =>
    simp only [Option.map_some, putState_shift last k id now h]
    rfl

theorem commitStop_shift (t : Ticket) (s : State) :
    (ro.shift last k).commitStop (t.shift last k) s now =
      (ro.commitStop t s now).shift last k := by
  have same (e : Entry) : (e.shift last k).revision = (t.shift last k).revision ↔
      e.revision = t.revision := renumber_inj last k
  have session : (t.shift last k).session = t.session := rfl
  simp only [commitStop, nextRevision_shift, session, find?_shift]
  cases ro.nextRevision.find? t.session.id with
  | none => rfl
  | some e =>
    simp only [Option.map_some, putState_shift last k _ now h, same]
    split <;> rfl

/-- **Leaving revisions out changes nothing else.** -/
theorem ask_shift (r : Request) :
    (ro.shift last k).ask now (r.shift last k) =
      { (ro.ask now r).shift last k with
        result := (ro.ask now r).result.map (Answer.shift last k) } := by
  -- the answers have no revisions, but for tickets
  have plain {α : Type} (o : Outcome α) (f : α → Answer)
      (hf : ∀ a, (f a).shift last k = f a) :
      (o.shift last k).map f =
        { (o.map f).shift last k with
          result := (o.map f).result.map (Answer.shift last k) } := by
    obtain ⟨ro', event, result⟩ := o
    cases result with
    | error p => rfl
    | ok a => simp [Outcome.map, Outcome.shift, Except.map, hf]
  cases r with
  | register r =>
    show ((ro.shift last k).register r now).map _ = _
    rw [register_shift last k now h]
    exact plain _ _ fun _ => rfl
  | unregister id =>
    show ((ro.shift last k).unregister id).map _ = _
    rw [unregister_shift]
    exact plain _ _ fun _ => rfl
  | setState id s =>
    show ((ro.shift last k).setState id s now).map _ = _
    rw [setState_shift last k id now h]
    exact plain _ _ fun _ => rfl
  | beginStop id =>
    show Outcome.mk (ro.shift last k) none (((ro.shift last k).beginStop id).map Answer.ticket) = _
    rw [beginStop, find?_shift, ask, beginStop]
    cases ro.find? id <;> rfl
  | commitStop t s =>
    show ((ro.shift last k).commitStop (t.shift last k) s now).map _ = _
    rw [commitStop_shift last k now h]
    exact plain _ _ fun _ => rfl
  | setTodos id todos =>
    show ((ro.shift last k).setTodos id todos now).map _ = _
    rw [setTodos_shift]
    exact plain _ _ fun _ => rfl
  | touch id =>
    show ((ro.shift last k).touch id now).map _ = _
    rw [touch_shift]
    exact plain _ _ fun _ => rfl
  | mute kind id =>
    show ((ro.shift last k).mute kind id now).map _ = _
    rw [mute_shift]
    exact plain _ _ fun _ => rfl
  | undoMute =>
    show (ro.shift last k).undoMute.map _ = _
    rw [undoMute_shift]
    exact plain _ _ fun _ => rfl
  | clearLastMuted => rfl

end requests

end

/-- A roster that has only taken revisions has left them out. -/
theorem shift_of_sound {ro : Roster} (h : ro.Sound) (k : Nat) :
    ro.shift ro.lastRevision k = ro.spend k := by
  have same : ro.entries.map (fun p => (p.1, p.2.shift ro.lastRevision k)) = ro.entries := by
    refine (List.map_congr_left fun p hp => ?_).trans (List.map_id _)
    obtain ⟨id, e⟩ := p
    have le : e.revision ≤ ro.lastRevision := h.revision_le (h.find?_iff.mpr hp)
    rw [Entry.shift, renumber_of_le _ k le]
    rfl
  rw [shift, same, spend]

end SessionWatch.Roster
