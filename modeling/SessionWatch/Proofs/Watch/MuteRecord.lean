/-
# What the record of the last mute is worth

The record of the last mute names a thing that is muted, so that to undo it
turns a flag over. What is outside stays muted as long as there is a record of
it. A session can be taken off, with its flag, and the record stays: to undo
it is granted then, changes no flag and is not told. What becomes of the
record of a session that is registered after it was muted is left open here.

The steps since the last mute are those in which a session can go or come
back without the record, and the invariant (`RecordHolds`) is about them.

Key definitions: `Watch.sinceMute`, `Watch.registeredSince`,
`Watch.unregisteredSince`, `Watch.RecordHolds`.
Key theorems: `Watch.recordHolds_run`, `Watch.record_in_force`,
`Watch.record_outlasts_flag`.
-/
import Mathlib.Data.List.DropRight
import Mathlib.Data.List.Induction
import SessionWatch.Proofs.Roster.Mute
import SessionWatch.Proofs.Watch.Step

namespace SessionWatch

namespace Watch

open Roster (MuteEffect ask_muteEffect)

/-! ### Steps -/

/-- What a step does to what is muted. -/
theorem Step.muteEffect (s : Step) :
    (∃ r now, s.action = .ask r now ∧
      MuteEffect s.before.roster now s.after.roster r s.event?) ∨
      (s.after.roster = s.before.roster ∧ s.event? = none) := by
  obtain ⟨w, a⟩ := s
  cases a with
  | ask r now =>
    refine .inl ⟨r, now, rfl, ?_⟩
    show MuteEffect w.roster now (w.act (.ask r now)).1.roster r _
    rw [roster_act_ask]
    exact ask_muteEffect w.roster now r
  | subscribe | sendTo | remove | take | drain | drop =>
    exact .inr ⟨roster_act (by simp), rfl⟩

/-- The step mutes a thing. -/
def Step.mutes (s : Step) : Bool :=
  match s.event? with
  | some (.muteChanged _ _ true) => true
  | _ => false

theorem Step.mutes_of_untold {s : Step}
    (told : ∀ kind id flag, s.event? ≠ some (.muteChanged kind id flag)) : s.mutes = false := by
  unfold mutes
  split
  · rename_i kind id hev
    exact absurd hev (told kind id true)
  · rfl

/-- The step registers a session, be it for the first time. -/
def Step.registers (id : String) (s : Step) : Bool :=
  match s.action with
  | .ask (.register r) _ => r.id = id
  | _ => false

/-- The step is to take a session off. -/
def Step.unregisters (id : String) (s : Step) : Bool :=
  match s.action with
  | .ask (.unregister id') _ => id' = id
  | _ => false

/-! ### Since the last mute -/

/-- The steps after the last one that mutes a thing; all of them if there is none. -/
def sinceMute (ss : List Step) : List Step := ss.rtakeWhile fun s => !s.mutes

/-- A session was registered since the last mute. -/
def registeredSince (id : String) (ss : List Step) : Bool := (sinceMute ss).any (·.registers id)

/-- A session was to be taken off since the last mute. -/
def unregisteredSince (id : String) (ss : List Step) : Bool :=
  (sinceMute ss).any (·.unregisters id)

theorem sinceMute_of_mutes (ss : List Step) {s : Step} (h : s.mutes = true) :
    sinceMute (ss ++ [s]) = [] :=
  List.rtakeWhile_concat_neg _ _ _ (by simp [h])

theorem sinceMute_concat (ss : List Step) {s : Step} (h : s.mutes = false) :
    sinceMute (ss ++ [s]) = sinceMute ss ++ [s] :=
  List.rtakeWhile_concat_pos _ _ _ (by simp [h])

section since

variable {ss : List Step} {s : Step} {id : String}

theorem registeredSince_concat (h : s.mutes = false) :
    registeredSince id (ss ++ [s]) = (registeredSince id ss || s.registers id) := by
  simp [registeredSince, sinceMute_concat ss h]

theorem unregisteredSince_concat (h : s.mutes = false) :
    unregisteredSince id (ss ++ [s]) = (unregisteredSince id ss || s.unregisters id) := by
  simp [unregisteredSince, sinceMute_concat ss h]

end since

/-! ### The record -/

/-- The thing on record is muted, or it is a session that is gone, unless it is a session that was
registered after it was muted. -/
def RecordHolds (ro : Roster) (ss : List Step) : Prop :=
  ∀ r, ro.lastMuted = some r → (r.kind = .session → registeredSince r.id ss = false) →
    ro.flag? r.target = some true ∨
      (r.kind = .session ∧ ro.flag? r.target = none ∧ unregisteredSince r.id ss = true)

section record

variable {ss : List Step} {s : Step} {ro : Roster} {r : MuteRecord}

/-- What holds of a record goes on to hold of it if its flag stays. -/
theorem RecordHolds.of_flag_eq (h : RecordHolds s.before.roster ss) (quiet : s.mutes = false)
    (flag : ∀ r, s.after.roster.lastMuted = some r → s.before.roster.lastMuted = some r ∧
      ((r.kind = .session → s.registers r.id = false) →
        s.after.roster.flag? r.target = s.before.roster.flag? r.target)) :
    RecordHolds s.after.roster (ss ++ [s]) := by
  intro r record fresh
  obtain ⟨before, same⟩ := flag r record
  have fresh' (hk : r.kind = .session) : registeredSince r.id ss = false ∧
      s.registers r.id = false := by
    have := fresh hk
    rwa [registeredSince_concat quiet, Bool.or_eq_false_iff] at this
  rw [same fun hk => (fresh' hk).2]
  rcases h r before (fun hk => (fresh' hk).1) with muted | ⟨hk, gone, off⟩
  · exact .inl muted
  · refine .inr ⟨hk, gone, ?_⟩
    rw [unregisteredSince_concat quiet, off, Bool.true_or]

/-- Without a record there is nothing to hold. -/
theorem recordHolds_of_none (h : ro.lastMuted = none) : RecordHolds ro ss := by
  intro r record
  rw [h] at record
  cases record

/-- **Every step keeps the record.** -/
theorem RecordHolds.step (h : RecordHolds s.before.roster ss) :
    RecordHolds s.after.roster (ss ++ [s]) := by
  rcases s.muteEffect with ⟨q, now, ask, he⟩ | ⟨same, silent⟩
  · generalize hev : s.event? = ev at he
    cases he with
    | kept flags last told =>
      have quiet : s.mutes = false := Step.mutes_of_untold (by rwa [hev])
      exact h.of_flag_eq quiet fun r record => ⟨last ▸ record, fun _ => by rw [flags]⟩
    | registered q replaced flags last =>
      have quiet : s.mutes = false := by rw [Step.mutes, hev]
      refine h.of_flag_eq quiet fun r record => ⟨last ▸ record, fun other => ?_⟩
      have apart : r.target ≠ (.session, q.id) := by
        intro target
        obtain ⟨hk, hid⟩ := Prod.mk.inj target
        have := other hk
        simp [Step.registers, ask, hid] at this
      rw [flags, Function.update_of_ne apart]
    | unregistered id flags last =>
      have quiet : s.mutes = false := by rw [Step.mutes, hev]
      by_cases off : ∃ r, s.before.roster.lastMuted = some r ∧ r.target = (.session, id)
      · -- the record is of the session that is taken off
        obtain ⟨r, before, target⟩ := off
        obtain ⟨hk, hid⟩ := Prod.mk.inj target
        intro r' record _
        rw [last, before] at record
        obtain rfl := Option.some.inj record
        refine .inr ⟨hk, by rw [flags, target, Function.update_self], ?_⟩
        rw [unregisteredSince_concat quiet]
        simp [Step.unregisters, ask, hid]
      · refine h.of_flag_eq quiet fun r record => ⟨last ▸ record, fun _ => ?_⟩
        have apart : r.target ≠ (.session, id) := fun target => off ⟨r, last ▸ record, target⟩
        rw [flags, Function.update_of_ne apart]
    | muted kind id flag flags last =>
      intro r record _
      rw [last] at record
      obtain rfl := Option.some.inj record
      exact .inl (by rw [flags, MuteRecord.target, Function.update_self])
    | unmuted kind id flag flags last =>
      have quiet : s.mutes = false := by rw [Step.mutes, hev]
      refine h.of_flag_eq quiet fun r record => ?_
      rw [last] at record
      split at record
      · cases record
      · rename_i other
        refine ⟨record, fun _ => ?_⟩
        have apart : r.target ≠ (kind, id) := by
          intro target
          obtain ⟨hk, hid⟩ := Prod.mk.inj target
          simp [Roster.lastMutedIs, record, hk, hid] at other
        rw [flags, Function.update_of_ne apart]
    | undone r record there flags last => exact recordHolds_of_none last
    | lost r record gone flags last => exact recordHolds_of_none last
    | forgotten r record flags last => exact recordHolds_of_none last
  · have quiet : s.mutes = false := by rw [Step.mutes, silent]
    exact h.of_flag_eq quiet fun r record => ⟨same ▸ record, fun _ => by rw [same]⟩

/-- **The record holds after every run.** -/
theorem recordHolds_run (capacity limit : Nat) (as : List Action) :
    RecordHolds ((Watch.new capacity limit).run as).1.roster
      ((Watch.new capacity limit).steps as) := by
  induction as using List.reverseRecOn with
  | nil => exact recordHolds_of_none rfl
  | append_singleton as a ih =>
    rw [run_append_fst, steps_append]
    exact RecordHolds.step (s := ⟨((Watch.new capacity limit).run as).1, a⟩) ih

/-- What is outside is muted as long as it is on record. -/
theorem flag?_of_record_outside (capacity limit : Nat) (as : List Action)
    (record : ((Watch.new capacity limit).run as).1.roster.lastMuted = some r)
    (outside : r.kind ≠ .session) :
    ((Watch.new capacity limit).run as).1.roster.flag? r.target = some true := by
  rcases recordHolds_run capacity limit as r record (fun hk => absurd hk outside) with
    muted | ⟨hk, -, -⟩
  · exact muted
  · exact absurd hk outside

/-- To undo a mute turns the flag on record over, or its session is gone. -/
theorem RecordHolds.undo {w : Watch} {now : Instant} (h : RecordHolds w.roster ss)
    (granted : (w.act (.ask .undoMute now)).2 = .roster (.ok (.record r)))
    (fresh : r.kind = .session → registeredSince r.id ss = false) :
    let s : Step := ⟨w, .ask .undoMute now⟩
    (w.roster.isMuted r.kind r.id = true ∧ s.after.roster.isMuted r.kind r.id = false ∧
        s.event? = some (.muteChanged r.kind r.id false)) ∨
      (r.kind = .session ∧ w.roster.find? r.id = none ∧
        s.after.roster = w.roster.clearLastMuted ∧ s.event? = none) := by
  intro s
  have after : s.after.roster = w.roster.undoMute.roster := roster_act_ask w .undoMute now
  have told : s.event? = w.roster.undoMute.event := rfl
  have record : w.roster.lastMuted = some r := by
    have result : w.roster.undoMute.result.map Roster.Answer.record = .ok (.record r) :=
      Answer.roster.inj granted
    rw [← Roster.result_undoMute]
    cases hr : w.roster.undoMute.result with
    | error p =>
      rw [hr] at result
      cases result
    | ok r' =>
      rw [hr] at result
      rw [Roster.Answer.record.inj (Except.ok.inj result)]
  rw [after, told]
  rcases h r record fresh with muted | ⟨hk, gone, -⟩
  · obtain ⟨ro', undone, flags, -⟩ :=
      Roster.undoMute_of_there record (by rw [muted]; exact Option.some_ne_none true)
    have unmuted : ro'.flag? r.target = some false := by rw [flags, Function.update_self]
    rw [undone]
    exact .inl ⟨Roster.isMuted_of_flag? muted, Roster.isMuted_of_flag? unmuted, rfl⟩
  · rw [Roster.undoMute_of_gone record gone]
    have none_found : w.roster.find? r.id = none := by
      rw [MuteRecord.target, hk] at gone
      exact Option.map_eq_none_iff.mp gone
    exact .inr ⟨hk, none_found, rfl, rfl⟩

/-- A flag that is told to have changed has changed. -/
theorem RecordHolds.changed (h : RecordHolds s.before.roster ss) {kind : MuteKind} {id : String}
    {flag : Bool} (told : s.event? = some (.muteChanged kind id flag))
    (fresh : ∀ now, s.action = .ask .undoMute now → kind = .session →
      registeredSince id ss = false) :
    s.before.roster.isMuted kind id = !flag ∧ s.after.roster.isMuted kind id = flag := by
  rcases s.muteEffect with ⟨q, now, ask, he⟩ | ⟨-, silent⟩
  · rw [told] at he
    cases he with
    | kept flags last other => exact absurd rfl (other kind id flag)
    | muted _ _ before flags last | unmuted _ _ before flags last =>
      refine ⟨Roster.isMuted_of_flag? before, Roster.isMuted_of_flag? ?_⟩
      rw [flags, Function.update_self]
    | undone r record there flags last =>
      have muted : s.before.roster.flag? r.target = some true := by
        rcases h r record (fresh now ask) with muted | ⟨-, gone, -⟩
        · exact muted
        · exact absurd gone there
      have unmuted : s.after.roster.flag? r.target = some false := by
        rw [flags, Function.update_self]
      exact ⟨Roster.isMuted_of_flag? muted, Roster.isMuted_of_flag? unmuted⟩
  · rw [silent] at told
    cases told

end record

/-- **The record of the last mute names a mute in force.** After every run what is on record is
muted, or it is a session that was taken off after it was muted. To undo it turns its flag over
and tells so once, or its session is gone: then no flag changes and nothing is told. Every flag
that is told to have changed has changed. Of a session on record that was registered after it
was muted none of this is said. -/
theorem record_in_force (capacity limit : Nat) (as : List Action) :
    let w := ((Watch.new capacity limit).run as).1
    let ss := (Watch.new capacity limit).steps as
    (∀ r, w.roster.lastMuted = some r →
      (r.kind ≠ .session → w.roster.isMuted r.kind r.id = true) ∧
      (r.kind = .session → registeredSince r.id ss = false →
        w.roster.isMuted .session r.id = true ∨
          (w.roster.find? r.id = none ∧ unregisteredSince r.id ss = true))) ∧
    (∀ r now, (w.act (.ask .undoMute now)).2 = .roster (.ok (.record r)) →
      (r.kind = .session → registeredSince r.id ss = false) →
      let s : Step := ⟨w, .ask .undoMute now⟩
      (w.roster.isMuted r.kind r.id = true ∧ s.after.roster.isMuted r.kind r.id = false ∧
          s.event? = some (.muteChanged r.kind r.id false)) ∨
        (r.kind = .session ∧ w.roster.find? r.id = none ∧
          s.after.roster = w.roster.clearLastMuted ∧ s.event? = none)) ∧
    ∀ a kind id flag, let s : Step := ⟨w, a⟩
      s.event? = some (.muteChanged kind id flag) →
      (∀ now, a = .ask .undoMute now → kind = .session → registeredSince id ss = false) →
      w.roster.isMuted kind id = !flag ∧ s.after.roster.isMuted kind id = flag := by
  intro w ss
  have holds : RecordHolds w.roster ss := recordHolds_run capacity limit as
  refine ⟨fun r record => ⟨fun outside => ?_, fun hk fresh => ?_⟩,
    fun r now granted fresh => holds.undo granted fresh,
    fun a kind id flag told fresh => RecordHolds.changed (s := ⟨w, a⟩) holds told fresh⟩
  · have muted := flag?_of_record_outside capacity limit as record outside
    exact Roster.isMuted_of_flag? muted
  · have target : r.target = (.session, r.id) := by rw [MuteRecord.target, hk]
    rcases holds r record (fun _ => fresh) with muted | ⟨-, gone, off⟩
    · rw [target] at muted
      exact .inl (Roster.isMuted_of_flag? muted)
    · rw [target] at gone
      exact .inr ⟨Option.map_eq_none_iff.mp gone, off⟩

/-- A session that is muted has other sessions registered and other things unmuted after it. -/
theorem record_in_force_session :
    let noon : Instant := ⟨⟨2024, 3, 1⟩, 43200, 0⟩
    let ask (r : Roster.Request) : Action := .ask r noon
    let as := [ask (.register ⟨"one", "", "/src", .claude⟩), ask (.mute .repo "api"),
      ask (.mute .session "one"), ask (.register ⟨"two", "", "/src", .codex⟩),
      ask (.mute .repo "api"), ask (.setState "one" .idle)]
    let w := ((Watch.new 1 1).run as).1
    let r : MuteRecord := ⟨.session, "one", noon⟩
    w.roster.lastMuted = some r ∧ registeredSince "one" ((Watch.new 1 1).steps as) = false ∧
      w.roster.find? "one" ≠ none ∧
      (w.act (ask .undoMute)).2 = .roster (.ok (.record r)) ∧
      w.roster.isMuted .session "one" = true ∧
      (Step.after ⟨w, ask .undoMute⟩).roster.isMuted .session "one" = false ∧
      Step.event? ⟨w, ask .undoMute⟩ = some (.muteChanged .session "one" false) := by
  intro noon ask as w r
  have record : w.roster.lastMuted = some r := rfl
  have fresh : registeredSince "one" ((Watch.new 1 1).steps as) = false := rfl
  have there : w.roster.find? "one" ≠ none := Option.some_ne_none _
  have granted : (w.act (ask .undoMute)).2 = .roster (.ok (.record r)) := rfl
  obtain ⟨-, undo, changed⟩ := record_in_force 1 1 as
  rcases undo r noon granted (fun _ => fresh) with ⟨muted, -, told⟩ | ⟨-, gone, -, -⟩
  · obtain ⟨-, after⟩ := changed _ _ _ _ told fun _ _ _ => fresh
    exact ⟨record, fresh, there, granted, muted, after, told⟩
  · exact absurd gone there

/-- **The record can outlast the flag.** A session that is muted and taken off stays on record,
and to undo that is granted and turns nothing over. It stays on record too if it is registered
anew, and to undo that is told, with the flag as it was. -/
theorem record_outlasts_flag :
    let noon : Instant := ⟨⟨2024, 3, 1⟩, 43200, 0⟩
    let ask (r : Roster.Request) : Action := .ask r noon
    let one := ask (.register ⟨"one", "", "/src", .claude⟩)
    let r : MuteRecord := ⟨.session, "one", noon⟩
    let off := ((Watch.new 1 1).run [one, ask (.mute .session "one"), ask (.unregister "one")]).1
    let anew := ((Watch.new 1 1).run [one, ask (.mute .session "one"), one]).1
    let undo (w : Watch) : Step := ⟨w, ask .undoMute⟩
    (off.roster.lastMuted = some r ∧ off.roster.isMuted .session "one" = false ∧
      (∃ answer, (undo off).answer = .roster (.ok answer)) ∧ (undo off).event? = none) ∧
    (anew.roster.lastMuted = some r ∧ anew.roster.isMuted .session "one" = false ∧
      (∃ answer, (undo anew).answer = .roster (.ok answer)) ∧
      (undo anew).event? = some (.muteChanged .session "one" false)) :=
  ⟨⟨rfl, rfl, ⟨_, rfl⟩, rfl⟩, rfl, rfl, ⟨_, rfl⟩, rfl⟩

end Watch

end SessionWatch
