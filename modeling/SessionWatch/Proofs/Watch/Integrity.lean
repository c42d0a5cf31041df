/-
# What holds of a roster after any run

The entries of a roster stand under the ids of their sessions, each with a
revision of its own that was given out. A ticket that was taken in the run is
of the session that has its revision, if there is one. Sessions are muted by
their own flags only. All of this holds after every run, whatever was granted
and whatever was refused.

If the readings of the clock do not go back from one commit to the next, then
the instants of every session are in order too, and none is after the latest
reading.

Key definitions: `Roster.MutesOutside`.
Key theorems: `Watch.stamped_run`, `Watch.backs_run`, `Watch.dated_run`,
`Watch.roster_integrity`.
-/
import Mathlib.Data.List.Induction
import SessionWatch.Proofs.Roster.Tenure
import SessionWatch.Proofs.Watch.History

namespace SessionWatch

namespace Roster

/-! ### What is muted besides sessions -/

/-- Nothing on the list of what is muted is a session. -/
def MutesOutside (ro : Roster) : Prop := ∀ x ∈ ro.muted, x.1 ≠ .session

theorem MutesOutside.setMuted {ro ro' : Roster} (h : ro.MutesOutside) {kind : MuteKind}
    {id : String} {flag : Bool} (set : ro.setMuted? kind id flag = some ro') :
    ro'.MutesOutside := by
  cases kind with
  | session =>
    obtain ⟨e, -, rfl⟩ := Option.map_eq_some_iff.mp set
    exact h
  | pr | repo | author =>
    obtain rfl := Option.some.inj set
    have kept (y : MuteKind × String) : ∀ x ∈ ro.muted.filter (· ≠ y), x.1 ≠ .session :=
      fun x hx => h x (List.mem_filter.mp hx).1
    cases flag with
    | false => exact kept _
    | true => exact List.forall_mem_cons.mpr ⟨nofun, kept _⟩

/-- **No request puts a session on the list of what is muted.** -/
theorem MutesOutside.ask {ro : Roster} (h : ro.MutesOutside) (now : Instant) (r : Request) :
    (ro.ask now r).roster.MutesOutside := by
  cases r with
  | register | beginStop | clearLastMuted => exact h
  | unregister id =>
    simp only [Roster.ask, unregister]
    cases ro.find? id <;> exact h
  | setState id s =>
    simp only [Roster.ask, setState]
    cases ro.nextRevision.find? id <;> exact h
  | commitStop t s =>
    simp only [Roster.ask, commitStop]
    cases ro.nextRevision.find? t.session.id with
    | none => exact h
    | some e =>
      dsimp only
      split <;> exact h
  | setTodos id todos =>
    simp only [Roster.ask, setTodos]
    cases ro.find? id <;> exact h
  | touch id =>
    simp only [Roster.ask, touch]
    cases ro.find? id <;> exact h
  | mute kind id =>
    simp only [Roster.ask, mute]
    cases set : ro.setMuted? kind id (!ro.isMuted kind id) with
    | none => exact h
    | some ro' =>
      have outside : ro'.MutesOutside := h.setMuted set
      exact outside
  | undoMute =>
    simp only [Roster.ask, undoMute]
    cases ro.lastMuted with
    | none => exact h
    | some r =>
      have dropped : ({ ro with lastMuted := none } : Roster).MutesOutside := h
      dsimp only
      cases set : ({ ro with lastMuted := none } : Roster).setMuted? r.kind r.id false with
      | none => exact h
      | some ro' => exact dropped.setMuted set

end Roster

namespace Watch

open Roster (Stamped Backs MutesOutside)

/-! ### Revisions and tickets along a run -/

/-- **No two sessions ever have one revision.** -/
theorem stamped_run (capacity limit : Nat) (as : List Action) :
    ((Watch.new capacity limit).run as).1.roster.Stamped :=
  (run_keeps (P := fun w => w.Sound ∧ w.roster.Stamped)
    (fun _ a h => ⟨h.1.act a, roster_act_keeps h.2 (h.2.effect h.1.roster) a⟩) as _
    ⟨sound_new capacity limit, Roster.stamped_empty⟩).2

/-- A ticket that is taken is backed. -/
theorem backs_of_taken {w : Watch} (hw : w.Sound) (h : w.roster.Stamped) {a : Action}
    {t : Roster.Ticket} (taken : (w.act a).2 = .roster (.ok (.ticket t))) :
    (w.act a).1.roster.Backs t := by
  cases a with
  | ask r now =>
    have answer : (w.roster.ask now r).result = .ok (.ticket t) := Answer.roster.inj taken
    obtain ⟨id, rfl, granted⟩ := Roster.beginStop_of_ticket answer
    rw [roster_act_ask]
    exact h.backs hw.roster granted
  | subscribe | sendTo | remove | take | drain | drop => cases taken

/-- **Every ticket that was taken in a run is backed after it.** -/
theorem backs_run (capacity limit : Nat) (as : List Action) {t : Roster.Ticket}
    (taken : Answer.roster (.ok (.ticket t)) ∈ ((Watch.new capacity limit).run as).2) :
    ((Watch.new capacity limit).run as).1.roster.Backs t := by
  induction as using List.reverseRecOn with
  | nil => cases taken
  | append_singleton as a ih =>
    have hw := sound_run capacity limit as
    rw [run_append] at taken
    rw [run_append_fst]
    rcases List.mem_append.mp taken with before | last
    · exact roster_act_keeps (ih before) ((ih before).effect hw.roster) a
    · have answer : Answer.roster (.ok (.ticket t)) =
          (((Watch.new capacity limit).run as).1.act a).2 := List.mem_singleton.mp last
      exact backs_of_taken hw (stamped_run capacity limit as) answer.symm

theorem mutesOutside_run (capacity limit : Nat) (as : List Action) :
    ((Watch.new capacity limit).run as).1.roster.MutesOutside := by
  refine run_keeps (P := fun w => w.roster.MutesOutside) (fun w a h => ?_) as _
    (List.forall_mem_nil _)
  cases a with
  | ask r now =>
    rw [roster_act_ask]
    exact h.ask now r
  | subscribe | sendTo | remove | take | drain | drop =>
    rw [roster_act (by simp)]
    exact h

/-! ### Dates along a run -/

/-- A step leaves the sessions dated, if what it reads off the clock does not go back. -/
theorem dated_step {s : Step} {latest : Option Instant}
    (ahead : ∀ t ∈ latest, ∀ u ∈ s.reading?, t.le u = true) {id : String}
    (h : ∀ x ∈ s.before.roster.session? id, x.Dated latest) :
    ∀ x ∈ s.after.roster.session? id, x.Dated (s.reading?.or latest) := by
  rw [session?_step]
  unfold Step.reading? at ahead ⊢
  cases asked : s.asked? with
  | none => exact h
  | some a =>
    rw [asked] at ahead
    exact a.dated_apply ahead h

/-- **The sessions are dated after a run in which readings do not go back.** -/
theorem dated_run (capacity limit : Nat) (as : List Action)
    (ascending : (readings ((Watch.new capacity limit).steps as)).Pairwise
      fun t u => t.le u = true) (id : String) :
    ∀ s ∈ ((Watch.new capacity limit).run as).1.roster.session? id,
      s.Dated (readings ((Watch.new capacity limit).steps as)).getLast? := by
  induction as using List.reverseRecOn with
  | nil =>
    intro s hs
    cases hs
  | append_singleton as a ih =>
    let last : Step := ⟨((Watch.new capacity limit).run as).1, a⟩
    have split : (Watch.new capacity limit).steps (as ++ [a]) =
        (Watch.new capacity limit).steps as ++ [last] := steps_append _ as [a]
    rw [split, readings, List.filterMap_append] at ascending
    obtain ⟨before, -, ahead⟩ := List.pairwise_append.mp ascending
    rw [run_append_fst, split, readings_concat]
    refine dated_step (s := last) (fun t ht u hu => ?_) (ih before)
    have now : u ∈ [last].filterMap Step.reading? := List.mem_filterMap.mpr ⟨last, by simp, hu⟩
    exact ahead t (List.mem_of_getLast? ht) u now

/-! ### The roster after a run -/

/-- **The roster is in order after every run.** The entries stand under the ids of their sessions,
and no two under one. Each has a revision that was given out, and no two have the same. A ticket
that was taken in the run has a revision that was given out, and an entry with that revision is
of the session of the ticket, in the state that the ticket has. No session is on the list of what
is muted. If the readings of the clock do not go back, the instants of each session are in order,
and none is after the latest reading. -/
theorem roster_integrity (capacity limit : Nat) (as : List Action) :
    let w := Watch.new capacity limit
    let ro := (w.run as).1.roster
    let read := readings (w.steps as)
    (ro.entries.map Prod.fst).Nodup ∧
    (∀ p ∈ ro.entries, p.2.session.id = p.1) ∧
    (ro.entries.map (·.2.revision)).Nodup ∧
    (∀ p ∈ ro.entries, 1 ≤ p.2.revision ∧ p.2.revision ≤ ro.lastRevision) ∧
    (∀ t, Answer.roster (.ok (.ticket t)) ∈ (w.run as).2 →
      t.revision ≤ ro.lastRevision ∧
        ∀ p ∈ ro.entries, p.2.revision = t.revision →
          p.1 = t.session.id ∧ p.2.session.state = t.session.state) ∧
    (∀ x ∈ ro.muted, x.1 ≠ .session) ∧
    (read.Pairwise (fun t u => t.le u = true) →
      ∀ p ∈ ro.entries, p.2.session.Dated read.getLast?) := by
  intro w ro read
  have sound : ro.Sound := (sound_run capacity limit as).roster
  have stamped : ro.Stamped := stamped_run capacity limit as
  have found {p : String × Roster.Entry} (hp : p ∈ ro.entries) : ro.find? p.1 = some p.2 :=
    sound.find?_iff.mpr hp
  refine ⟨sound.nodup, fun p hp => sound.id_eq (found hp), stamped.nodup_revisions sound,
    fun p hp => ⟨stamped.one_le (found hp), sound.revision_le (found hp)⟩, fun t taken => ?_,
    mutesOutside_run capacity limit as, fun ascending p hp => ?_⟩
  · have backs : ro.Backs t := backs_run capacity limit as taken
    exact ⟨backs.le_last, fun p hp same => backs.same (found hp) same⟩
  · have listed : p.2.session ∈ ro.session? p.1 := by
      rw [Roster.session?, found hp]
      rfl
    exact dated_run capacity limit as ascending p.1 _ listed

/-- A ticket is taken, and then another session comes, todos are put down, and a request is refused
whose clock was set back. The session of the ticket has its revision still. -/
theorem roster_integrity_outstanding :
    let noon : Instant := ⟨⟨2024, 3, 1⟩, 43200, 0⟩
    let later : Instant := ⟨⟨2024, 3, 1⟩, 43201, 0⟩
    let one : Registration := ⟨"one", "", "/src", .claude⟩
    let t : Roster.Ticket := ⟨.fresh one noon, 1⟩
    let as := [Action.ask (.register one) noon, .ask (.beginStop "one") noon,
      .ask (.register ⟨"two", "", "/src", .codex⟩) later, .ask (.setState "three" .idle) noon,
      .ask (.setTodos "one" ["[ ] write"]) later, .ask (.mute .repo "src") later]
    let w := Watch.new 4 1
    let ro := (w.run as).1.roster
    Answer.roster (.ok (.ticket t)) ∈ (w.run as).2 ∧
      readings (w.steps as) = [noon, later, later, later] ∧
      ro.entries.map (·.2.revision) = [1, 2] ∧ ro.lastRevision = 3 ∧
      (∀ p ∈ ro.entries, p.2.revision = 1 → p.1 = "one" ∧ p.2.session.state = .working) ∧
      ∀ p ∈ ro.entries, p.2.session.Dated (some later) := by
  intro noon later one t as w ro
  have taken : Answer.roster (.ok (.ticket t)) ∈ (w.run as).2 :=
    List.mem_cons_of_mem _ List.mem_cons_self
  have read : readings (w.steps as) = [noon, later, later, later] := rfl
  have ascending : (readings (w.steps as)).Pairwise fun t u => t.le u = true := by
    rw [read]
    decide
  obtain ⟨-, -, -, -, tickets, -, dated⟩ := roster_integrity 4 1 as
  have last : (readings (w.steps as)).getLast? = some later := by
    rw [read]
    rfl
  exact ⟨taken, read, rfl, rfl, (tickets t taken).2, fun p hp => last ▸ dated ascending p hp⟩

end Watch

end SessionWatch
