/-
# Undoing the last mute

A mute is in force and on record until it is taken back, dropped or replaced,
or its session goes or comes back. Whatever else happens, to undo it turns
over that one flag and tells of it once, and after that nothing is on record
until something is muted again. To mute a thing twice changes no flag.

Nothing is assumed of the watch that the mute finds, so all of this holds
after every run.

Key definitions: `Roster.Request.disturbs`, `Watch.Action.disturbs`,
`Watch.Action.asksMute`, `Roster.Undoable`.
Key theorems: `Watch.undoable_act`, `Roster.flag?_mute_mute`,
`Watch.undo_reverses_last`.
-/
import SessionWatch.Proofs.Watch.MuteRecord

namespace SessionWatch

/-! ### Flags under a mute -/

namespace Roster

open Function (update update_self update_of_ne update_eq_self update_idem)

section mute

variable {ro : Roster} {kind : MuteKind} {id : String} {flag : Bool}

/-- What is granted as a mute found the thing unmuted. -/
theorem flag?_of_result_mute {now : Instant} (granted : (ro.mute kind id now).result = .ok true) :
    ro.flag? (kind, id) = some false := by
  cases there : ro.flag? (kind, id) with
  | none =>
    rw [mute_of_gone there] at granted
    cases granted
  | some flag =>
    obtain ⟨ro', muted, -⟩ := mute_of_there there now
    rw [muted] at granted
    have turned : (!flag) = true := Except.ok.inj granted
    simpa using turned

/-- To mute a thing turns over its flag, if it has one. -/
theorem flag?_mute (ro : Roster) (kind : MuteKind) (id : String) (now : Instant) :
    (ro.mute kind id now).roster.flag? =
      update ro.flag? (kind, id) ((ro.flag? (kind, id)).map (!·)) := by
  cases there : ro.flag? (kind, id) with
  | none =>
    have same : update ro.flag? (kind, id) none = ro.flag? := by
      rw [← there, update_eq_self]
    rw [mute_of_gone there, Option.map_none, same]
    rfl
  | some flag =>
    obtain ⟨ro', muted, flags, -⟩ := mute_of_there there now
    rw [muted, Option.map_some]
    exact flags

/-- **To mute a thing twice changes no flag.** -/
theorem flag?_mute_mute (ro : Roster) (kind : MuteKind) (id : String) (now now' : Instant) :
    ((ro.mute kind id now).roster.mute kind id now').roster.flag? = ro.flag? := by
  have back : ((ro.flag? (kind, id)).map (!·)).map (!·) = ro.flag? (kind, id) := by
    cases ro.flag? (kind, id) <;> simp
  rw [flag?_mute, flag?_mute, update_self, update_idem, back, update_eq_self]

end mute

/-! ### What can be undone -/

/-- The last mute is that of the record, and it is in force. -/
structure Undoable (r : MuteRecord) (ro : Roster) : Prop where
  record : ro.lastMuted = some r
  muted : ro.flag? r.target = some true

/-- A mute that is granted can be undone. -/
theorem undoable_mute {ro : Roster} {kind : MuteKind} {id : String} {now : Instant}
    (granted : (ro.mute kind id now).result = .ok true) :
    Undoable ⟨kind, id, now⟩ (ro.mute kind id now).roster := by
  obtain ⟨ro', muted, flags, record⟩ := mute_of_there (flag?_of_result_mute granted) now
  rw [muted]
  refine ⟨record, ?_⟩
  show ro'.flag? (kind, id) = some true
  rw [flags, update_self]
  rfl

/-- What can be undone is undone: that flag is turned over and no other, and it is told. -/
theorem Undoable.undoMute {r : MuteRecord} {ro : Roster} (h : Undoable r ro) :
    ∃ ro', ro.undoMute = ⟨ro', some (.muteChanged r.kind r.id false), .ok r⟩ ∧
      ro'.flag? = update ro.flag? r.target (some false) ∧ ro'.lastMuted = none :=
  undoMute_of_there h.record (by simp [h.muted])

/-- The request is about the record of the last mute, or it may give a session another flag and
the thing is that session. -/
def Request.disturbs (x : MuteKind × String) : Request → Bool
  | .mute _ _ | .undoMute | .clearLastMuted => true
  | .register r => x = (.session, r.id)
  | .unregister id => x = (.session, id)
  | .setState _ _ | .beginStop _ | .commitStop _ _ | .setTodos _ _ | .touch _ => false

/-- Other requests leave a mute as it is. -/
theorem Undoable.effect {r : MuteRecord} {ro ro' : Roster} {now : Instant} {q : Request}
    {ev : Option Event} (h : Undoable r ro) (calm : q.disturbs r.target = false)
    (he : MuteEffect ro now ro' q ev) : Undoable r ro' := by
  cases he with
  | kept flags last told => exact ⟨last ▸ h.record, flags ▸ h.muted⟩
  | registered q replaced flags last =>
    have apart : r.target ≠ (.session, q.id) := by simpa [Request.disturbs] using calm
    refine ⟨last ▸ h.record, ?_⟩
    rw [flags, update_of_ne apart]
    exact h.muted
  | unregistered id flags last =>
    have apart : r.target ≠ (.session, id) := by simpa [Request.disturbs] using calm
    refine ⟨last ▸ h.record, ?_⟩
    rw [flags, update_of_ne apart]
    exact h.muted
  | muted | unmuted | undone | lost | forgotten => cases calm

/-- Without a record there is none until something is muted. -/
theorem lastMuted_effect {ro ro' : Roster} {now : Instant} {q : Request} {ev : Option Event}
    (dropped : ro.lastMuted = none) (other : ∀ kind id, q ≠ .mute kind id)
    (he : MuteEffect ro now ro' q ev) : ro'.lastMuted = none := by
  cases he with
  | kept _ last | registered _ _ _ last | unregistered _ _ last => rw [last, dropped]
  | muted kind id | unmuted kind id => exact absurd rfl (other kind id)
  | undone _ _ _ _ last | lost _ _ _ _ last | forgotten _ _ _ last => exact last

end Roster

/-! ### Runs -/

namespace Watch

open Roster (Undoable)

/-- The action may take a mute back or change what is on record of it. -/
def Action.disturbs (x : MuteKind × String) : Action → Bool
  | .ask r _ => r.disturbs x
  | _ => false

/-- The action is to mute something, or to unmute it. -/
def Action.asksMute : Action → Bool
  | .ask (.mute _ _) _ => true
  | _ => false

/-- **An action that does not disturb a mute leaves it to be undone.** -/
theorem undoable_act {r : MuteRecord} {w : Watch} {a : Action} (h : Undoable r w.roster)
    (calm : a.disturbs r.target = false) : Undoable r (w.act a).1.roster := by
  rcases Step.muteEffect ⟨w, a⟩ with ⟨q, now, ask, he⟩ | ⟨same, -⟩
  · obtain rfl : a = .ask q now := ask
    exact h.effect calm he
  · have kept : (w.act a).1.roster = w.roster := same
    rwa [kept]

/-- So do runs of such actions. -/
theorem undoable_run {r : MuteRecord} : ∀ (as : List Action) {w : Watch}, Undoable r w.roster →
    (∀ a ∈ as, a.disturbs r.target = false) → Undoable r (w.run as).1.roster
  | [], _, h, _ => h
  | a :: as, w, h, calm => by
    obtain ⟨first, later⟩ := List.forall_mem_cons.mp calm
    rw [run_cons_fst]
    exact undoable_run as (undoable_act h first) later

/-- **Nothing is on record until something is muted.** -/
theorem lastMuted_act {w : Watch} {a : Action} (dropped : w.roster.lastMuted = none)
    (other : a.asksMute = false) : (w.act a).1.roster.lastMuted = none := by
  rcases Step.muteEffect ⟨w, a⟩ with ⟨q, now, ask, he⟩ | ⟨same, -⟩
  · obtain rfl : a = .ask q now := ask
    refine Roster.lastMuted_effect dropped ?_ he
    rintro kind id rfl
    cases other
  · have kept : (w.act a).1.roster = w.roster := same
    rw [kept, dropped]

theorem lastMuted_run : ∀ (as : List Action) {w : Watch}, w.roster.lastMuted = none →
    (∀ a ∈ as, a.asksMute = false) → (w.run as).1.roster.lastMuted = none
  | [], _, dropped, _ => dropped
  | a :: as, w, dropped, other => by
    obtain ⟨first, later⟩ := List.forall_mem_cons.mp other
    rw [run_cons_fst]
    exact lastMuted_run as (lastMuted_act dropped first) later

/-- The answer to a mute that is granted. -/
theorem result_of_granted {w : Watch} {kind : MuteKind} {id : String} {now : Instant} {flag : Bool}
    (granted : (w.act (.ask (.mute kind id) now)).2 = .roster (.ok (.flag flag))) :
    (w.roster.mute kind id now).result = .ok flag := by
  have result : (w.roster.mute kind id now).result.map Roster.Answer.flag = .ok (.flag flag) :=
    Answer.roster.inj granted
  cases hr : (w.roster.mute kind id now).result with
  | error p =>
    rw [hr] at result
    cases result
  | ok flag' =>
    rw [hr] at result
    rw [Roster.Answer.flag.inj (Except.ok.inj result)]

/-- Without a record there is nothing to undo. -/
theorem answer_undo_of_none {w : Watch} (dropped : w.roster.lastMuted = none) (now : Instant) :
    (w.act (.ask .undoMute now)).2 = .roster (.error .nothingToUndo) := by
  show Answer.roster (w.roster.undoMute.result.map Roster.Answer.record) = _
  rw [Roster.undoMute, dropped]
  rfl

/-- **To undo reverses exactly the last mute.** After a mute and a run that does not disturb it, to
undo is granted with the record of that mute, turns over its flag and no other, and is told once.
After that there is nothing to undo until something is muted again. To mute a thing twice, one
time after the other, changes no flag. -/
theorem undo_reverses_last :
    (∀ (w : Watch) (kind : MuteKind) (id : String) (now : Instant) (bs : List Action),
      (w.act (.ask (.mute kind id) now)).2 = .roster (.ok (.flag true)) →
      (∀ b ∈ bs, b.disturbs (kind, id) = false) →
      ∀ later : Instant,
        let before := ((w.act (.ask (.mute kind id) now)).1.run bs).1
        let undo : Step := ⟨before, .ask .undoMute later⟩
        undo.answer = .roster (.ok (.record ⟨kind, id, now⟩)) ∧
        before.roster.isMuted kind id = true ∧ undo.after.roster.isMuted kind id = false ∧
        (∀ x, x ≠ (kind, id) → undo.after.roster.flag? x = before.roster.flag? x) ∧
        undo.event? = some (.muteChanged kind id false) ∧
        undo.after.feed = before.feed.publish (Event.muteChanged kind id false).line ∧
        ∀ (cs : List Action) (last : Instant), (∀ c ∈ cs, c.asksMute = false) →
          ((undo.after.run cs).1.act (.ask .undoMute last)).2 =
            .roster (.error .nothingToUndo)) ∧
    ∀ (w : Watch) (kind : MuteKind) (id : String) (now later : Instant),
      let once := (w.act (.ask (.mute kind id) now)).1
      (once.act (.ask (.mute kind id) later)).1.roster.flag? = w.roster.flag? := by
  refine ⟨fun w kind id now bs granted calm later => ?_, fun w kind id now later => ?_⟩
  · intro before undo
    have muted : Undoable ⟨kind, id, now⟩ (w.act (.ask (.mute kind id) now)).1.roster := by
      rw [roster_act_ask]
      exact Roster.undoable_mute (result_of_granted granted)
    have undoable : Undoable ⟨kind, id, now⟩ before.roster := undoable_run bs muted calm
    obtain ⟨ro', undone, flags, dropped⟩ := undoable.undoMute
    have after : undo.after.roster = ro' := by
      have := roster_act_ask before .undoMute later
      rw [Roster.ask, undone] at this
      exact this
    have told : (before.roster.ask later .undoMute).event = some (.muteChanged kind id false) := by
      rw [Roster.ask, undone]
      rfl
    have fed : undo.after.feed = before.feed.publish (Event.muteChanged kind id false).line := by
      have := feed_act_ask before .undoMute later
      rw [told] at this
      exact this
    have unmuted : ro'.flag? (kind, id) = some false := by
      rw [flags]
      exact Function.update_self ..
    refine ⟨?_, Roster.isMuted_of_flag? undoable.muted, ?_, fun x other => ?_, told, fed,
      fun cs last quiet => answer_undo_of_none (lastMuted_run cs ?_ quiet) last⟩
    · show Answer.roster (before.roster.undoMute.result.map Roster.Answer.record) = _
      rw [undone]
      rfl
    · rw [after]
      exact Roster.isMuted_of_flag? unmuted
    · rw [after, flags]
      exact Function.update_of_ne other ..
    · rw [after]
      exact dropped
  · intro once
    have first : once.roster = (w.roster.mute kind id now).roster := roster_act_ask w _ now
    have second := roster_act_ask once (.mute kind id) later
    rw [second, first]
    exact Roster.flag?_mute_mute w.roster kind id now later

/-- A session is muted whose id is that of a repository which is muted too; others come, change
their state and are taken off before the mute is undone. -/
theorem undo_reverses_last_apart :
    let noon : Instant := ⟨⟨2024, 3, 1⟩, 43200, 0⟩
    let ask (r : Roster.Request) : Action := .ask r noon
    let w := ((Watch.new 4 1).run [.subscribe, ask (.register ⟨"api", "", "/src", .claude⟩),
      ask (.mute .repo "api")]).1
    let bs := [ask (.register ⟨"two", "", "/src", .codex⟩), ask (.setState "api" .idle),
      ask (.unregister "two"), .drain 1]
    let before := ((w.act (ask (.mute .session "api"))).1.run bs).1
    let undo : Step := ⟨before, ask .undoMute⟩
    (w.act (ask (.mute .session "api"))).2 = .roster (.ok (.flag true)) ∧
      (∀ b ∈ bs, b.disturbs (.session, "api") = false) ∧
      undo.answer = .roster (.ok (.record ⟨.session, "api", noon⟩)) ∧
      undo.after.roster.isMuted .session "api" = false ∧
      undo.after.roster.isMuted .repo "api" = true ∧
      undo.event? = some (.muteChanged .session "api" false) ∧
      ((undo.after.run [ask (.touch "api")]).1.act (ask .undoMute)).2 =
        .roster (.error .nothingToUndo) := by
  intro noon ask w bs before undo
  have granted : (w.act (ask (.mute .session "api"))).2 = .roster (.ok (.flag true)) := rfl
  have calm : ∀ b ∈ bs, b.disturbs (.session, "api") = false := by decide
  obtain ⟨answer, -, unmuted, others, told, -, nothing⟩ :=
    undo_reverses_last.1 w .session "api" noon bs granted calm noon
  have repo : undo.after.roster.flag? (.repo, "api") = some true := by
    rw [others (.repo, "api") (by decide)]
    rfl
  exact ⟨granted, calm, answer, unmuted, Roster.isMuted_of_flag? repo, told,
    nothing [ask (.touch "api")] noon (by decide)⟩

end Watch

end SessionWatch
