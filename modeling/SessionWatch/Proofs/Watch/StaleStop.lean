/-
# Results that come too late

The end of a turn is decided outside, while requests go on. Its result is put
down only if the state of the session was not set since the ticket was taken:
then the session has the revision of the ticket still, and otherwise a later
one, whatever else was asked in between and however many tickets there are.
Of the tickets taken while the state of a session was not set, one at most is
of use, since to put down a result sets the state.

Key definitions: `Watch.Step.SetsState`, `Watch.Step.SetsOnly`,
`Watch.Step.Idle`, `Watch.Step.settles`.
Key theorems: `Watch.current_run`, `Watch.past_of_set_run`,
`Watch.countP_settles_le`, `Watch.stop_committed_iff_unset`.
-/
import SessionWatch.Proofs.Roster.Revision
import SessionWatch.Proofs.Watch.Step

namespace SessionWatch.Watch

/-- The step puts down the state of a session, be it for the first time. -/
def Step.SetsState (id : String) (s : Step) : Prop :=
  match s.action, s.answer with
  | .ask r _, .roster result => Roster.SetsState id r result
  | _, _ => False

/-- The step puts one session in place of another with its id, changes no other session and
nothing that is muted, and tells once that the state changed. -/
structure Step.SetsOnly (step : Step) (old new : Session) : Prop where
  session : (step.after.roster.find? old.id).map (·.session) = some new
  others : ∀ id, id ≠ old.id → step.after.roster.find? id = step.before.roster.find? id
  muted : step.after.roster.muted = step.before.roster.muted
  lastMuted : step.after.roster.lastMuted = step.before.roster.lastMuted
  told : step.after.feed =
    step.before.feed.publish (Event.stateChanged old.id old.state new.state new).line

/-- The step changes no session, nothing that is muted and no mailbox. -/
structure Step.Idle (step : Step) : Prop where
  entries : step.after.roster.entries = step.before.roster.entries
  muted : step.after.roster.muted = step.before.roster.muted
  lastMuted : step.after.roster.lastMuted = step.before.roster.lastMuted
  feed : step.after.feed = step.before.feed

/-- The step puts down a result on one of the tickets. -/
def Step.settles (tickets : List Roster.Ticket) (s : Step) : Bool :=
  match s.action, s.answer with
  | .ask (.commitStop t _) _, .roster (.ok (.stop (.committed _))) => t ∈ tickets
  | _, _ => false

/-! ### Revisions along a run -/

section run

variable {id : String} {revision : Nat} {w : Watch} {s : Step}

/-- The steps that set a state are those that are told as such. -/
theorem setsState_iff_stamps (h : s.before.Sound) :
    s.SetsState id ↔ Roster.Stamps id s.event? := by
  obtain ⟨w, a⟩ := s
  cases a with
  | ask r now =>
    show Roster.SetsState id r (w.roster.ask now r).result ↔
      Roster.Stamps id (w.roster.ask now r).event
    rw [Roster.Stamps, Roster.heading_ask h.roster]
    exact Roster.setsState_iff
  | subscribe | sendTo | remove | take | drain | drop =>
    simp [Step.SetsState, Step.event?, Roster.Stamps]

theorem current_step (hw : s.before.Sound) (h : s.before.roster.Current id revision)
    (hs : ¬ s.SetsState id) : s.after.roster.Current id revision := by
  rw [setsState_iff_stamps hw] at hs
  rcases s.effect with ⟨now, he⟩ | ⟨hr, -⟩
  · exact h.effect hw.roster he hs
  · exact hr ▸ h

theorem past_step (hw : s.before.Sound) (h : s.before.roster.Past id revision) :
    s.after.roster.Past id revision :=
  roster_act_keeps h (h.effect hw.roster) s.action

theorem past_of_set (hw : s.before.Sound) (hle : revision ≤ s.before.roster.lastRevision)
    (hs : s.SetsState id) : s.after.roster.Past id revision := by
  rw [setsState_iff_stamps hw] at hs
  rcases s.effect with ⟨now, he⟩ | ⟨-, he⟩
  · exact Roster.past_of_stamps hle hw.roster he hs
  · rw [he] at hs
    simp [Roster.Stamps] at hs

theorem lastRevision_step (s : Step) :
    s.before.roster.lastRevision ≤ s.after.roster.lastRevision :=
  roster_act_keeps (P := fun ro => s.before.roster.lastRevision ≤ ro.lastRevision)
    (Nat.le_refl _) Roster.lastRevision_mono s.action

theorem lastRevision_run (as : List Action) (w : Watch) :
    w.roster.lastRevision ≤ (w.run as).1.roster.lastRevision :=
  run_keeps (P := fun u => w.roster.lastRevision ≤ u.roster.lastRevision)
    (fun u a h => Nat.le_trans h (lastRevision_step ⟨u, a⟩)) as w (Nat.le_refl _)

/-- As long as its state is not set a session has one revision. -/
theorem current_run (hw : w.Sound) (h : w.roster.Current id revision) {as : List Action}
    (hs : ∀ s ∈ w.steps as, ¬ s.SetsState id) :
    (w.run as).1.roster.Current id revision ∧
      ∀ s ∈ w.steps as, s.before.Sound ∧ s.before.roster.Current id revision := by
  obtain ⟨hend, hall⟩ := run_keeps_while (P := fun w => w.Sound ∧ w.roster.Current id revision)
    (fun s h hq => ⟨h.1.act s.action, current_step h.1 h.2 hq⟩) as w ⟨hw, h⟩ hs
  exact ⟨hend.2, hall⟩

/-- A revision that the session is past stays behind. -/
theorem past_run (hw : w.Sound) (h : w.roster.Past id revision) (as : List Action) :
    (w.run as).1.roster.Past id revision ∧
      ∀ s ∈ w.steps as, s.before.roster.Past id revision := by
  obtain ⟨hend, hall⟩ := run_keeps_while (Q := fun _ => True)
    (P := fun w => w.Sound ∧ w.roster.Past id revision)
    (fun s h _ => ⟨h.1.act s.action, past_step h.1 h.2⟩) as w ⟨hw, h⟩ fun _ _ => trivial
  exact ⟨hend.2, fun s hs => (hall s hs).2⟩

/-- Once its state is set the session is past every revision given out before. -/
theorem past_of_set_run : ∀ (as : List Action) {w : Watch}, w.Sound →
    revision ≤ w.roster.lastRevision → (∃ s ∈ w.steps as, s.SetsState id) →
      (w.run as).1.roster.Past id revision
  | [], _, _, _, ⟨_, hmem, _⟩ => absurd hmem List.not_mem_nil
  | a :: as, w, hw, hle, ⟨s, hmem, hs⟩ => by
    rcases List.mem_cons.mp hmem with rfl | hmem
    · exact (past_run (hw.act a) (past_of_set hw hle hs) as).1
    · exact past_of_set_run as (hw.act a) (Nat.le_trans hle (lastRevision_step ⟨w, a⟩))
        ⟨s, hmem, hs⟩

end run

/-! ### Results on tickets -/

section commit

variable {id : String} {t : Roster.Ticket} {w : Watch} {e : Roster.Entry}

/-- What a ticket is that is taken in a step. -/
theorem ticket_of_granted (hw : w.Sound) {taken : Instant}
    (granted : (w.act (.ask (.beginStop id) taken)).2 = .roster (.ok (.ticket t))) :
    t.session.id = id ∧ ∃ e, w.roster.find? id = some e ∧ e.revision = t.revision := by
  have hb : (w.roster.beginStop id).map Roster.Answer.ticket = .ok (.ticket t) :=
    Answer.roster.inj granted
  cases ht : w.roster.beginStop id with
  | error p =>
    rw [ht] at hb
    cases hb
  | ok t' =>
    rw [ht] at hb
    obtain rfl : t' = t := Roster.Answer.ticket.inj (Except.ok.inj hb)
    obtain ⟨e, found, rfl⟩ := Roster.beginStop_eq_ok ht
    exact ⟨hw.roster.id_eq found, e, found, rfl⟩

variable {s : State} {now : Instant}

/-- The step that puts down a result on a ticket. -/
def commitStep (w : Watch) (t : Roster.Ticket) (s : State) (now : Instant) : Step :=
  ⟨w, .ask (.commitStop t s) now⟩

/-- What the roster does with a result is what becomes of the step. -/
theorem commitStep_eq {o : Roster.Outcome Roster.Answer}
    (ho : w.roster.ask now (.commitStop t s) = o) :
    (commitStep w t s now).answer = .roster o.result ∧
      (commitStep w t s now).after.roster = o.roster ∧
      (commitStep w t s now).after.feed =
        o.event.elim w.feed fun e => w.feed.publish e.line := by
  subst ho
  exact ⟨rfl, roster_act_ask w _ now, feed_act_ask w _ now⟩

/-- A step that only takes a revision is idle. -/
theorem idle_of_nextRevision {st : Step} (hr : st.after.roster = st.before.roster.nextRevision)
    (hf : st.after.feed = st.before.feed) : st.Idle :=
  ⟨by rw [hr]; rfl, by rw [hr]; rfl, by rw [hr]; rfl, hf⟩

theorem commit_unknown (h : w.roster.find? t.session.id = none) (s : State) (now : Instant) :
    (commitStep w t s now).answer = .roster (.error (.unknownSession t.session.id)) ∧
      (commitStep w t s now).Idle := by
  obtain ⟨ha, hr, hf⟩ := commitStep_eq (Roster.ask_commitStop_unknown h s now)
  exact ⟨ha, idle_of_nextRevision hr hf⟩

theorem commit_past (h : w.roster.find? t.session.id = some e) (hr : e.revision ≠ t.revision)
    (s : State) (now : Instant) :
    (commitStep w t s now).answer = .roster (.ok (.stop (.superseded e.session.state))) ∧
      (commitStep w t s now).Idle := by
  obtain ⟨ha, hr, hf⟩ := commitStep_eq (Roster.ask_commitStop_past h hr s now)
  exact ⟨ha, idle_of_nextRevision hr hf⟩

theorem commit_current (hw : w.Sound) (h : w.roster.find? t.session.id = some e)
    (hr : e.revision = t.revision) (s : State) (now : Instant) :
    (commitStep w t s now).answer = .roster (.ok (.stop (.committed s))) ∧
      (commitStep w t s now).SetsOnly e.session
        { e.session with state := s, updatedAt := now, seenAt := now } := by
  obtain ⟨ha, hro, hf⟩ := commitStep_eq (Roster.ask_commitStop_current h hr s now)
  have hid := hw.roster.id_eq h
  refine ⟨ha, ?_, fun id hne => ?_, by rw [hro]; rfl, by rw [hro]; rfl, hf⟩
  · rw [hro, Roster.find?_put, hid, if_pos rfl]
    rfl
  · rw [hro, Roster.find?_put, ← hid, if_neg hne]
    rfl

/-- What becomes of a result depends on the revision of the session only. -/
theorem commit_found (hw : w.Sound) (h : w.roster.find? t.session.id = some e) (s : State)
    (now : Instant) :
    (commitStep w t s now).answer ≠ .roster (.error (.unknownSession t.session.id)) ∧
      ((commitStep w t s now).answer = .roster (.ok (.stop (.committed s))) ↔
        e.revision = t.revision) ∧
      ((commitStep w t s now).answer = .roster (.ok (.stop (.superseded e.session.state))) ↔
        ¬ e.revision = t.revision) ∧
      (e.revision = t.revision → (commitStep w t s now).SetsOnly e.session
        { e.session with state := s, updatedAt := now, seenAt := now }) ∧
      (¬ e.revision = t.revision → (commitStep w t s now).Idle) := by
  by_cases hr : e.revision = t.revision
  · obtain ⟨ha, hset⟩ := commit_current hw h hr s now
    rw [ha]
    exact ⟨by simp, by simp [hr], by simp [hr], fun _ => hset, fun hne => absurd hr hne⟩
  · obtain ⟨ha, hidle⟩ := commit_past h hr s now
    rw [ha]
    exact ⟨by simp, by simp [hr], by simp [hr], fun heq => absurd heq hr, fun _ => hidle⟩

/-- A result that is put down on a ticket sets the state of its session, which had the revision
of the ticket. -/
theorem commit_of_settles {tickets : List Roster.Ticket} {st : Step} (h : st.settles tickets) :
    ∃ t ∈ tickets, st.SetsState t.session.id ∧
      ∃ e, st.before.roster.find? t.session.id = some e ∧ e.revision = t.revision := by
  unfold Step.settles at h
  split at h
  · rename_i t s now s' ha hans
    refine ⟨t, by simpa using h, by simp [Step.SetsState, ha, hans, Roster.SetsState], ?_⟩
    have hst : st = commitStep st.before t s now := by rw [commitStep, ← ha]
    cases hf : st.before.roster.find? t.session.id with
    | none =>
      rw [hst, (commit_unknown hf s now).1] at hans
      cases hans
    | some e =>
      refine ⟨e, rfl, ?_⟩
      by_contra hr
      rw [hst, (commit_past hf hr s now).1] at hans
      cases hans
  · cases h

/-- No result is put down on tickets of a revision that the session is past. -/
theorem not_settles_of_past {revision : Nat} {tickets : List Roster.Ticket} {st : Step}
    (same : ∀ t ∈ tickets, t.session.id = id ∧ t.revision = revision)
    (hp : st.before.roster.Past id revision) : ¬ st.settles tickets = true := by
  intro h
  obtain ⟨t, ht, -, e, found, hr⟩ := commit_of_settles h
  rw [(same t ht).1] at found
  have hlt := hp.lt found
  rw [hr, (same t ht).2] at hlt
  exact Nat.lt_irrefl _ hlt

/-- One result at most is put down on tickets of one revision, since it takes the session past
that revision. -/
theorem countP_settles_le {revision : Nat} {tickets : List Roster.Ticket}
    (same : ∀ t ∈ tickets, t.session.id = id ∧ t.revision = revision) :
    ∀ (as : List Action) {w : Watch}, w.Sound → revision ≤ w.roster.lastRevision →
      (w.steps as).countP (·.settles tickets) ≤ 1
  | [], _, _, _ => Nat.zero_le _
  | a :: as, w, hw, hle => by
    rw [steps_cons, List.countP_cons]
    by_cases hset : Step.settles tickets ⟨w, a⟩ = true
    · obtain ⟨t, ht, hs, -⟩ := commit_of_settles hset
      rw [(same t ht).1] at hs
      have hp : (w.act a).1.roster.Past id revision := past_of_set (s := ⟨w, a⟩) hw hle hs
      have none_later : ((w.act a).1.steps as).countP (·.settles tickets) = 0 :=
        List.countP_eq_zero.mpr fun st hst =>
          not_settles_of_past same ((past_run (hw.act a) hp as).2 st hst)
      rw [if_pos hset]
      omega
    · rw [if_neg hset, Nat.add_zero]
      exact countP_settles_le same as (hw.act a) (Nat.le_trans hle (lastRevision_step ⟨w, a⟩))

/-- The session has the revision of a ticket still exactly if its state was not set since. -/
theorem revision_eq_iff (hw : w.Sound) (hc : w.roster.Current id t.revision) (as : List Action)
    (found : (w.run as).1.roster.find? id = some e) :
    e.revision = t.revision ↔ ∀ st ∈ w.steps as, ¬ st.SetsState id := by
  constructor
  · intro heq st hst hs
    have hlt := (past_of_set_run as hw hc.le_last ⟨st, hst, hs⟩).lt found
    rw [heq] at hlt
    exact Nat.lt_irrefl _ hlt
  · intro unset
    exact (current_run hw hc unset).1.eq found

/-- Tickets that are taken while the state of a session is not set have one revision. -/
theorem tickets_same (hw : w.Sound) {window : List Action} {tickets : List Roster.Ticket}
    (unset : ∀ st ∈ w.steps window, ¬ st.SetsState id)
    (taken : ∀ t ∈ tickets, ∃ st ∈ w.steps window, ∃ now,
      st.action = .ask (.beginStop id) now ∧ st.answer = .roster (.ok (.ticket t))) :
    ∃ revision, revision ≤ w.roster.lastRevision ∧
      ∀ t ∈ tickets, t.session.id = id ∧ t.revision = revision := by
  -- a session that is not there has any revision
  obtain ⟨revision, hc⟩ : ∃ revision, w.roster.Current id revision := by
    cases hf : w.roster.find? id with
    | none => exact ⟨0, Nat.zero_le _, fun found => by rw [hf] at found; cases found⟩
    | some e => exact ⟨e.revision, hw.roster.current hf⟩
  refine ⟨revision, hc.le_last, fun t ht => ?_⟩
  obtain ⟨⟨u, a⟩, hst, now, rfl, hans⟩ := taken t ht
  obtain ⟨hu, hcu⟩ := (current_run hw hc unset).2 _ hst
  obtain ⟨hid, e, found, hr⟩ := ticket_of_granted hu hans
  exact ⟨hid, hr ▸ hcu.eq found⟩

end commit

/-- **A result is put down exactly if the state was not set since its ticket was taken.** If the
session is gone the result is refused, and if it was set it comes too late; nothing changes then.
Of the tickets that are taken while the state of a session is not set, one result at most is put
down. -/
theorem stop_committed_iff_unset (capacity limit : Nat) (before : List Action) (id : String) :
    let start := ((Watch.new capacity limit).run before).1
    (∀ taken t between s now,
      (start.act (.ask (.beginStop id) taken)).2 = .roster (.ok (.ticket t)) →
      let window := (start.act (.ask (.beginStop id) taken)).1
      let commit := commitStep (window.run between).1 t s now
      let unset := ∀ st ∈ window.steps between, ¬ st.SetsState id
      (commit.answer = .roster (.error (.unknownSession id)) ↔
        commit.before.roster.find? id = none) ∧
      (commit.before.roster.find? id = none → commit.Idle) ∧
      ∀ e, commit.before.roster.find? id = some e →
        (commit.answer = .roster (.ok (.stop (.committed s))) ↔ unset) ∧
        (commit.answer = .roster (.ok (.stop (.superseded e.session.state))) ↔ ¬ unset) ∧
        (unset → e.session.id = id ∧ commit.SetsOnly e.session
          { e.session with state := s, updatedAt := now, seenAt := now }) ∧
        (¬ unset → commit.Idle)) ∧
    ∀ window rest tickets, (∀ st ∈ start.steps window, ¬ st.SetsState id) →
      (∀ t ∈ tickets, ∃ st ∈ start.steps window, ∃ taken,
        st.action = .ask (.beginStop id) taken ∧ st.answer = .roster (.ok (.ticket t))) →
      ((start.run window).1.steps rest).countP (·.settles tickets) ≤ 1 := by
  intro start
  have hstart : start.Sound := sound_run capacity limit before
  constructor
  · intro taken t between s now granted window commit unset
    have hwindow : window.Sound := hstart.act _
    obtain ⟨rfl, e₀, found₀, hr₀⟩ := ticket_of_granted hstart granted
    have hc : window.roster.Current t.session.id t.revision := by
      have same : window.roster = start.roster := roster_act_ask start _ taken
      rw [same, ← hr₀]
      exact hstart.roster.current found₀
    have hfound : (window.run between).1.Sound := hwindow.run between
    cases hf : (window.run between).1.roster.find? t.session.id with
    | none =>
      obtain ⟨ha, hidle⟩ := commit_unknown hf s now
      refine ⟨⟨fun _ => hf, fun _ => ha⟩, fun _ => hidle, fun e found => ?_⟩
      cases hf.symm.trans found
    | some e =>
      obtain ⟨hknown, hdone⟩ := commit_found hfound hf s now
      rw [revision_eq_iff hwindow hc between hf] at hdone
      have there : (window.run between).1.roster.find? t.session.id ≠ none := by simp [hf]
      refine ⟨⟨fun h => absurd h hknown, fun h => absurd h there⟩, fun h => absurd h there, ?_⟩
      intro e' found
      obtain rfl := Option.some.inj (hf.symm.trans found)
      obtain ⟨hcommitted, hsuperseded, hsets, hidle⟩ := hdone
      exact ⟨hcommitted, hsuperseded, fun h => ⟨hfound.roster.id_eq hf, hsets h⟩, hidle⟩
  · intro window rest tickets unset taken
    obtain ⟨revision, hle, same⟩ := tickets_same hstart unset taken
    have hwindow : (start.run window).1.Sound := hstart.run window
    exact countP_settles_le same rest hwindow (Nat.le_trans hle (lastRevision_run window start))

/-- A result is put down after the todos were set and comes too late after the state was, and the
same ticket is of use once. -/
theorem stop_committed_iff_unset_one :
    let noon : Instant := ⟨⟨2024, 3, 1⟩, 43200, 0⟩
    let one : Registration := ⟨"one", "first", "/src", .claude⟩
    let t : Roster.Ticket := ⟨.fresh one noon, 1⟩
    let take := Action.ask (.beginStop "one") noon
    let settle := Action.ask (.commitStop t .idle) noon
    let todos := Action.ask (.setTodos "one" ["[ ] write"]) noon
    let work := Action.ask (.setState "one" .working) noon
    let start := ((Watch.new 1 1).run [.ask (.register one) noon]).1
    (start.act take).2 = .roster (.ok (.ticket t)) ∧
      (commitStep ((start.act take).1.run [todos]).1 t .idle noon).answer =
        .roster (.ok (.stop (.committed .idle))) ∧
      (commitStep ((start.act take).1.run [work]).1 t .idle noon).answer =
        .roster (.ok (.stop (.superseded .working))) ∧
      ((start.run [take, take]).1.steps [settle, settle]).countP (·.settles [t]) ≤ 1 := by
  intro noon one t take settle todos work start
  have granted : (start.act take).2 = .roster (.ok (.ticket t)) := rfl
  obtain ⟨decided, once⟩ := stop_committed_iff_unset 1 1 [.ask (.register one) noon] "one"
  obtain ⟨-, -, free⟩ := decided noon t [todos] .idle noon granted
  obtain ⟨-, -, late⟩ := decided noon t [work] .idle noon granted
  refine ⟨granted, ?_, ?_, ?_⟩
  · refine (free _ rfl).1.mpr fun st hst => ?_
    rw [List.mem_singleton.mp hst]
    exact fun h => h
  · refine (late _ rfl).2.1.mpr fun unset => ?_
    exact unset _ (List.mem_singleton.mpr rfl) rfl
  · refine once [take, take] [settle, settle] [t] (fun st hst => ?_) fun t' ht => ?_
    · rcases List.mem_pair.mp hst with rfl | rfl <;> exact fun h => h
    · rw [List.mem_singleton.mp ht]
      exact ⟨_, List.mem_cons_self, noon, rfl, granted⟩

end SessionWatch.Watch
