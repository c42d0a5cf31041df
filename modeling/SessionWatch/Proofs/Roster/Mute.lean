/-
# What a request does to what is muted

The mute flags of a roster are one function of things, a thing being a kind
and an id; a session that is not there has no flag. A request changes this
function at one thing at most, and the record of the last mute with it or for
itself. `MuteEffect` lists the ways, and `ask_muteEffect` says that there are
no others.

Key definitions: `MuteRecord.target`, `Roster.flag?`, `Roster.MuteEffect`.
Key theorems: `Roster.flag?_of_setMuted?`, `Roster.mute_of_there`,
`Roster.mute_of_gone`, `Roster.undoMute_of_there`, `Roster.undoMute_of_gone`,
`Roster.ask_muteEffect`.
-/
import Mathlib.Logic.Function.Basic
import SessionWatch.Proofs.Roster.Announcement

namespace SessionWatch

/-- What was muted. -/
def MuteRecord.target (r : MuteRecord) : MuteKind × String := (r.kind, r.id)

namespace Roster

open Function (update update_eq_self)

/-! ### Flags -/

/-- The mute flag of a thing; a session that is not there has none. -/
def flag? (ro : Roster) : MuteKind × String → Option Bool
  | (.session, id) => (ro.find? id).map (·.session.muted)
  | (kind, id) => some (ro.isMuted kind id)

theorem isMuted_eq (ro : Roster) (kind : MuteKind) (id : String) :
    ro.isMuted kind id = (ro.flag? (kind, id)).getD false := by
  cases kind with
  | session =>
    show (ro.find? id).any _ = ((ro.find? id).map _).getD false
    cases ro.find? id <;> rfl
  | pr | repo | author => rfl

theorem isMuted_iff {ro : Roster} {kind : MuteKind} {id : String} :
    ro.isMuted kind id = true ↔ ro.flag? (kind, id) = some true := by
  rw [isMuted_eq]
  cases ro.flag? (kind, id) <;> simp

theorem isMuted_of_flag? {ro : Roster} {kind : MuteKind} {id : String} {flag : Bool}
    (h : ro.flag? (kind, id) = some flag) : ro.isMuted kind id = flag := by
  rw [isMuted_eq, h, Option.getD_some]

theorem flag?_congr {ro ro' : Roster} (he : ro'.entries = ro.entries) (hm : ro'.muted = ro.muted) :
    ro'.flag? = ro.flag? := by
  funext x
  obtain ⟨kind, id⟩ := x
  cases kind with
  | session =>
    show (ro'.find? id).map _ = (ro.find? id).map _
    rw [find?_congr he]
  | pr | repo | author =>
    show some (decide (_ ∈ ro'.muted)) = some (decide (_ ∈ ro.muted))
    rw [hm]

theorem flag?_put (ro : Roster) (id : String) (e : Entry) :
    (ro.put id e).flag? = update ro.flag? (.session, id) (some e.session.muted) := by
  funext x
  obtain ⟨kind, id'⟩ := x
  cases kind with
  | session =>
    show ((ro.put id e).find? id').map _ = _
    rw [find?_put, Function.update_apply]
    by_cases h : id' = id
    · simp [h]
    · simp [h, flag?]
  | pr | repo | author =>
    rw [Function.update_of_ne (by simp)]
    rfl

/-- An entry with the flag of the one that it replaces changes no flag. -/
theorem flag?_put_same {ro : Roster} {id : String} {e e' : Entry} (found : ro.find? id = some e)
    (same : e'.session.muted = e.session.muted) : (ro.put id e').flag? = ro.flag? := by
  have flag : ro.flag? (.session, id) = some e'.session.muted := by
    rw [same]
    exact congrArg (Option.map _) found
  rw [flag?_put, ← flag, update_eq_self]

theorem flag?_others (ro : Roster) (id : String) :
    ({ ro with entries := ro.others id } : Roster).flag? = update ro.flag? (.session, id) none := by
  funext x
  obtain ⟨kind, id'⟩ := x
  cases kind with
  | session =>
    show (Roster.find? _ id').map _ = _
    rw [find?_others, Function.update_apply]
    by_cases h : id' = id
    · simp [h]
    · simp [h, flag?]
  | pr | repo | author =>
    rw [Function.update_of_ne (by simp)]
    rfl

/-- **Setting a flag sets this flag only.** -/
theorem flag?_of_setMuted? {ro ro' : Roster} {kind : MuteKind} {id : String} {flag : Bool}
    (h : ro.setMuted? kind id flag = some ro') :
    ro'.flag? = update ro.flag? (kind, id) (some flag) := by
  cases kind with
  | session =>
    obtain ⟨e, -, rfl⟩ := Option.map_eq_some_iff.mp h
    exact flag?_put ro id _
  | pr | repo | author =>
    obtain rfl := Option.some.inj h
    funext x
    obtain ⟨kind', id'⟩ := x
    rw [Function.update_apply]
    cases kind' <;> cases flag <;> by_cases hid : id' = id <;>
      simp [flag?, isMuted, hid, find?]

theorem setMuted?_eq_none_iff_flag? {ro : Roster} {kind : MuteKind} {id : String} {flag : Bool} :
    ro.setMuted? kind id flag = none ↔ ro.flag? (kind, id) = none := by
  cases kind <;> simp [setMuted?, flag?]

/-! ### Muting -/

section mute

variable {ro : Roster} {kind : MuteKind} {id : String} {flag : Bool}

/-- A session that is gone cannot be muted. -/
theorem mute_of_gone (gone : ro.flag? (kind, id) = none) (now : Instant) :
    ro.mute kind id now = ro.refuse (.unknownSession id) := by
  have none_set : ro.setMuted? kind id (!ro.isMuted kind id) = none :=
    setMuted?_eq_none_iff_flag?.mpr gone
  simp only [mute, none_set]

/-- The flag of any other thing is turned over, and a mute is put on record. -/
theorem mute_of_there (there : ro.flag? (kind, id) = some flag) (now : Instant) :
    ∃ ro', ro.mute kind id now = ⟨ro', some (.muteChanged kind id (!flag)), .ok (!flag)⟩ ∧
      ro'.flag? = update ro.flag? (kind, id) (some (!flag)) ∧
      ro'.lastMuted = if !flag then some ⟨kind, id, now⟩
        else if ro.lastMutedIs kind id then none else ro.lastMuted := by
  have muted : ro.isMuted kind id = flag := isMuted_of_flag? there
  cases set : ro.setMuted? kind id (!flag) with
  | none =>
    have gone := setMuted?_eq_none_iff_flag?.mp set
    rw [there] at gone
    cases gone
  | some ro' =>
    have flags := flag?_of_setMuted? set
    let last := if !flag then some ⟨kind, id, now⟩
      else if ro.lastMutedIs kind id then none else ro.lastMuted
    refine ⟨{ ro' with lastMuted := last }, ?_, flags, rfl⟩
    simp only [mute, muted, set, last]

end mute

/-! ### Undoing -/

section undo

variable {ro : Roster} {r : MuteRecord}

/-- A record of a session that is gone is undone without a flag. -/
theorem undoMute_of_gone (record : ro.lastMuted = some r) (gone : ro.flag? r.target = none) :
    ro.undoMute = ⟨{ ro with lastMuted := none }, none, .ok r⟩ := by
  have none_set : ({ ro with lastMuted := none } : Roster).setMuted? r.kind r.id false = none :=
    setMuted?_eq_none_iff_flag?.mpr gone
  simp only [undoMute, record, none_set]

/-- Any other record is undone with its flag. -/
theorem undoMute_of_there (record : ro.lastMuted = some r) (there : ro.flag? r.target ≠ none) :
    ∃ ro', ro.undoMute = ⟨ro', some (.muteChanged r.kind r.id false), .ok r⟩ ∧
      ro'.flag? = update ro.flag? r.target (some false) ∧ ro'.lastMuted = none := by
  cases set : ({ ro with lastMuted := none } : Roster).setMuted? r.kind r.id false with
  | none => exact absurd (setMuted?_eq_none_iff_flag?.mp set) there
  | some ro' =>
    have flags := flag?_of_setMuted? set
    have last : ro'.lastMuted = none := by
      cases hk : r.kind with
      | session =>
        rw [hk] at set
        obtain ⟨e, -, rfl⟩ := Option.map_eq_some_iff.mp set
        rfl
      | pr | repo | author =>
        rw [hk] at set
        rw [← Option.some.inj set]
    refine ⟨ro', ?_, flags, last⟩
    simp only [undoMute, record, set]

/-- Nothing is on record after an undoing, granted or not. -/
theorem lastMuted_undoMute (ro : Roster) : ro.undoMute.roster.lastMuted = none := by
  cases record : ro.lastMuted with
  | none =>
    rw [undoMute, record]
    exact record
  | some r =>
    by_cases gone : ro.flag? r.target = none
    · rw [undoMute_of_gone record gone]
    · obtain ⟨ro', undone, -, last⟩ := undoMute_of_there record gone
      rw [undone]
      exact last

/-- What is on record is what is undone. -/
theorem result_undoMute : ro.undoMute.result = .ok r ↔ ro.lastMuted = some r := by
  cases record : ro.lastMuted with
  | none => simp [undoMute, record, refuse]
  | some r' =>
    have granted : ro.undoMute.result = .ok r' := by
      by_cases gone : ro.flag? r'.target = none
      · rw [undoMute_of_gone record gone]
      · obtain ⟨ro', undone, -, -⟩ := undoMute_of_there record gone
        rw [undone]
    simp [granted]

end undo

/-! ### Effects -/

/-- What a request can do to what is muted and to the record of the last mute, and what is told
of it. -/
inductive MuteEffect (ro : Roster) (now : Instant) (ro' : Roster) : Request → Option Event → Prop
  where
  | kept {r : Request} {ev : Option Event} (flags : ro'.flag? = ro.flag?)
      (last : ro'.lastMuted = ro.lastMuted)
      (told : ∀ kind id flag, ev ≠ some (.muteChanged kind id flag)) : MuteEffect ro now ro' r ev
  | registered (r : Registration) (replaced : Bool)
      (flags : ro'.flag? = update ro.flag? (.session, r.id) (some false))
      (last : ro'.lastMuted = ro.lastMuted) :
      MuteEffect ro now ro' (.register r) (some (.sessionAdded (.fresh r now) replaced))
  | unregistered (id : String) (flags : ro'.flag? = update ro.flag? (.session, id) none)
      (last : ro'.lastMuted = ro.lastMuted) :
      MuteEffect ro now ro' (.unregister id) (some (.sessionRemoved id))
  | muted (kind : MuteKind) (id : String) (flag : ro.flag? (kind, id) = some false)
      (flags : ro'.flag? = update ro.flag? (kind, id) (some true))
      (last : ro'.lastMuted = some ⟨kind, id, now⟩) :
      MuteEffect ro now ro' (.mute kind id) (some (.muteChanged kind id true))
  | unmuted (kind : MuteKind) (id : String) (flag : ro.flag? (kind, id) = some true)
      (flags : ro'.flag? = update ro.flag? (kind, id) (some false))
      (last : ro'.lastMuted = if ro.lastMutedIs kind id then none else ro.lastMuted) :
      MuteEffect ro now ro' (.mute kind id) (some (.muteChanged kind id false))
  | undone (r : MuteRecord) (record : ro.lastMuted = some r) (there : ro.flag? r.target ≠ none)
      (flags : ro'.flag? = update ro.flag? r.target (some false)) (last : ro'.lastMuted = none) :
      MuteEffect ro now ro' .undoMute (some (.muteChanged r.kind r.id false))
  /-- The session that was muted is gone. -/
  | lost (r : MuteRecord) (record : ro.lastMuted = some r) (gone : ro.flag? r.target = none)
      (flags : ro'.flag? = ro.flag?) (last : ro'.lastMuted = none) :
      MuteEffect ro now ro' .undoMute none
  | forgotten (r : MuteRecord) (record : ro.lastMuted = some r) (flags : ro'.flag? = ro.flag?)
      (last : ro'.lastMuted = none) : MuteEffect ro now ro' .clearLastMuted none

/-- A request that tells nothing and leaves entries and mutes as they are. -/
theorem muteEffect_of_same {ro ro' : Roster} {r : Request} {now : Instant}
    (entries : ro'.entries = ro.entries) (muted : ro'.muted = ro.muted)
    (last : ro'.lastMuted = ro.lastMuted) : MuteEffect ro now ro' r none :=
  .kept (flag?_congr entries muted) last nofun

theorem muteEffect_register (ro : Roster) (r : Registration) (now : Instant) :
    MuteEffect ro now (ro.register r now).roster (.register r) (ro.register r now).event := by
  refine .registered r _ ?_ rfl
  show (ro.nextRevision.put r.id _).flag? = _
  rw [flag?_put]
  rfl

theorem muteEffect_unregister (ro : Roster) (id : String) (now : Instant) :
    MuteEffect ro now (ro.unregister id).roster (.unregister id) (ro.unregister id).event := by
  rw [unregister]
  cases ro.find? id with
  | none => exact muteEffect_of_same rfl rfl rfl
  | some e => exact .unregistered id (flag?_others ro id) rfl

theorem muteEffect_setState (ro : Roster) (id : String) (s : State) (now : Instant) :
    MuteEffect ro now (ro.setState id s now).roster (.setState id s)
      (ro.setState id s now).event := by
  simp only [setState, find?_nextRevision]
  cases h : ro.find? id with
  | none => exact muteEffect_of_same rfl rfl rfl
  | some e =>
    have found : ro.nextRevision.find? id = some e := h
    exact .kept (flag?_put_same found rfl) rfl (by simp [putState])

theorem muteEffect_commitStop (ro : Roster) (t : Ticket) (s : State) (now : Instant) :
    MuteEffect ro now (ro.commitStop t s now).roster (.commitStop t s)
      (ro.commitStop t s now).event := by
  simp only [commitStop, find?_nextRevision]
  cases h : ro.find? t.session.id with
  | none => exact muteEffect_of_same rfl rfl rfl
  | some e =>
    by_cases hr : e.revision = t.revision
    · have found : ro.nextRevision.find? t.session.id = some e := h
      simp only [if_pos hr]
      exact .kept (flag?_put_same found rfl) rfl (by simp [putState])
    · simp only [if_neg hr]
      exact muteEffect_of_same rfl rfl rfl

theorem muteEffect_setTodos (ro : Roster) (id : String) (todos : List String) (now : Instant) :
    MuteEffect ro now (ro.setTodos id todos now).roster (.setTodos id todos)
      (ro.setTodos id todos now).event := by
  rw [setTodos]
  cases h : ro.find? id with
  | none => exact muteEffect_of_same rfl rfl rfl
  | some e => exact .kept (flag?_put_same h rfl) rfl (by simp)

theorem muteEffect_touch (ro : Roster) (id : String) (now : Instant) :
    MuteEffect ro now (ro.touch id now).roster (.touch id) (ro.touch id now).event := by
  rw [touch]
  cases h : ro.find? id with
  | none => exact muteEffect_of_same rfl rfl rfl
  | some e => exact .kept (flag?_put_same h rfl) rfl (by simp)

theorem muteEffect_mute (ro : Roster) (kind : MuteKind) (id : String) (now : Instant) :
    MuteEffect ro now (ro.mute kind id now).roster (.mute kind id) (ro.mute kind id now).event := by
  cases there : ro.flag? (kind, id) with
  | none =>
    rw [mute_of_gone there]
    exact muteEffect_of_same rfl rfl rfl
  | some flag =>
    obtain ⟨ro', muted, flags, last⟩ := mute_of_there there now
    rw [muted]
    cases flag with
    | false => exact .muted kind id there flags last
    | true => exact .unmuted kind id there flags last

theorem muteEffect_undoMute (ro : Roster) (now : Instant) :
    MuteEffect ro now ro.undoMute.roster .undoMute ro.undoMute.event := by
  cases record : ro.lastMuted with
  | none =>
    rw [undoMute, record]
    exact muteEffect_of_same rfl rfl rfl
  | some r =>
    by_cases gone : ro.flag? r.target = none
    · rw [undoMute_of_gone record gone]
      exact .lost r record gone rfl rfl
    · obtain ⟨ro', undone, flags, last⟩ := undoMute_of_there record gone
      rw [undone]
      exact .undone r record gone flags last

theorem muteEffect_clearLastMuted (ro : Roster) (now : Instant) :
    MuteEffect ro now ro.clearLastMuted .clearLastMuted none := by
  cases record : ro.lastMuted with
  | none => exact muteEffect_of_same rfl rfl record.symm
  | some r => exact .forgotten r record rfl rfl

/-- **A request does one of these to what is muted.** -/
theorem ask_muteEffect (ro : Roster) (now : Instant) (r : Request) :
    MuteEffect ro now (ro.ask now r).roster r (ro.ask now r).event := by
  cases r with
  | register r => exact muteEffect_register ro r now
  | unregister id => exact muteEffect_unregister ro id now
  | setState id s => exact muteEffect_setState ro id s now
  | beginStop id => exact muteEffect_of_same rfl rfl rfl
  | commitStop t s => exact muteEffect_commitStop ro t s now
  | setTodos id todos => exact muteEffect_setTodos ro id todos now
  | touch id => exact muteEffect_touch ro id now
  | mute kind id => exact muteEffect_mute ro kind id now
  | undoMute => exact muteEffect_undoMute ro now
  | clearLastMuted => exact muteEffect_clearLastMuted ro now

end Roster

end SessionWatch
