/-
# An observer does not slow down the others

An observer may read its mailbox often, rarely or never, and let go of it. In
two runs that differ in this only, and in which the same observers are let in,
every request has the same answer and leads to the same roster, and every
other observer reads the same lines at the same steps and is taken off the
list at the same step.

The two runs lead to watches that are apart at one mailbox only (`Apart`).
What the one observer does with its mailbox changes nothing else, and an action
in both runs keeps the watches so.

Key definitions: `Watch.Action.reads`, `Watch.Apart`, `Watch.Step.Agrees`,
`Watch.Aside`.
Key theorems: `Watch.apart_of_reads`, `Watch.Apart.act`, `Watch.isolated_run`,
`Watch.slow_observer_isolated`.
-/
import Mathlib.Data.List.Forall2
import SessionWatch.Proofs.Watch.Delivery

namespace SessionWatch.Watch

/-! ### Two watches -/

/-- The action is what an observer does with its own mailbox. -/
def Action.reads (slow : Nat) : Action → Bool
  | .take n _ | .drain n | .drop n => n = slow
  | _ => false

/-- The action is about the mailbox of an observer. -/
def Action.handles (slow : Nat) : Action → Bool
  | .sendTo n _ | .remove n | .take n _ | .drain n | .drop n => n = slow
  | _ => false

/-- Whether an observer was let in, if the step is a subscription. -/
def Step.accepted? (s : Step) : Option Bool :=
  match s.answer with
  | .subscribed (.ok _) => some true
  | .subscribed (.error _) => some false
  | _ => none

/-- The watches are the same but for one mailbox, and whether it is on the list. -/
structure Apart (slow : Nat) (w w' : Watch) : Prop where
  roster : w'.roster = w.roster
  capacity : w'.feed.capacity = w.feed.capacity
  limit : w'.feed.limit = w.feed.limit
  lastId : w'.feed.lastId = w.feed.lastId
  box : ∀ n, n ≠ slow → w'.feed.find? n = w.feed.find? n

variable {slow : Nat} {w w' w'' : Watch}

theorem Apart.refl (w : Watch) : Apart slow w w := ⟨rfl, rfl, rfl, rfl, fun _ _ => rfl⟩

theorem Apart.symm (h : Apart slow w w') : Apart slow w' w :=
  ⟨h.roster.symm, h.capacity.symm, h.limit.symm, h.lastId.symm, fun n hn => (h.box n hn).symm⟩

theorem Apart.trans (h : Apart slow w w') (h' : Apart slow w' w'') : Apart slow w w'' :=
  ⟨h'.roster.trans h.roster, h'.capacity.trans h.capacity, h'.limit.trans h.limit,
    h'.lastId.trans h.lastId, fun n hn => (h'.box n hn).trans (h.box n hn)⟩

/-- A change of the one mailbox is nothing to the rest. -/
theorem apart_of_modify {g : Mailbox → Mailbox} (hg : ∀ m, (g m).id = m.id) (w : Watch) :
    Apart slow w { w with feed := w.feed.modify slow g } :=
  ⟨rfl, rfl, rfl, rfl, fun _ hn => Feed.find?_modify_of_ne hg (Ne.symm hn)⟩

/-- What an observer does with its own mailbox is nothing to the rest. -/
theorem apart_of_reads {a : Action} (h : a.reads slow = true) (w : Watch) :
    Apart slow w (w.act a).1 := by
  cases a with
  | take n count =>
    obtain rfl : n = slow := of_decide_eq_true h
    exact apart_of_modify (g := fun m => { m with queue := m.queue.drop count }) (fun _ => rfl) w
  | drain n =>
    obtain rfl : n = slow := of_decide_eq_true h
    exact apart_of_modify (g := ({ · with queue := [] })) (fun _ => rfl) w
  | drop n =>
    obtain rfl : n = slow := of_decide_eq_true h
    exact apart_of_modify (g := ({ · with held := false, queue := [] })) (fun _ => rfl) w
  | ask | subscribe | sendTo | remove => cases h

/-- The same change of the same mailbox, whichever it is. -/
theorem Apart.modify (h : Apart slow w w') {g : Mailbox → Mailbox} (hg : ∀ m, (g m).id = m.id)
    (k : Nat) :
    Apart slow { w with feed := w.feed.modify k g } { w' with feed := w'.feed.modify k g } := by
  refine ⟨h.roster, h.capacity, h.limit, h.lastId, fun n hn => ?_⟩
  dsimp only
  rw [Feed.find?_modify hg, Feed.find?_modify hg, h.box n hn]

theorem Apart.ask (h : Apart slow w w') (r : Roster.Request) (now : Instant) :
    Apart slow (w.act (.ask r now)).1 (w'.act (.ask r now)).1 := by
  have roster : (w'.act (.ask r now)).1.roster = (w.act (.ask r now)).1.roster := by
    rw [roster_act_ask, roster_act_ask, h.roster]
  have feed := feed_act_ask w r now
  have feed' := feed_act_ask w' r now
  rw [h.roster] at feed'
  cases hev : (w.roster.ask now r).event with
  | none =>
    rw [hev] at feed feed'
    refine ⟨roster, ?_, ?_, ?_, fun n hn => ?_⟩ <;> rw [feed, feed']
    · exact h.capacity
    · exact h.limit
    · exact h.lastId
    · exact h.box n hn
  | some e =>
    rw [hev] at feed feed'
    refine ⟨roster, ?_, ?_, ?_, fun n hn => ?_⟩ <;> rw [feed, feed']
    · exact h.capacity
    · exact h.limit
    · exact h.lastId
    · show (w'.feed.publish e.line).find? n = (w.feed.publish e.line).find? n
      rw [Feed.find?_publish, Feed.find?_publish, h.box n hn, h.capacity]

theorem act_subscribe_full (full : w.feed.limit ≤ w.feed.count) :
    w.act .subscribe = (w, .subscribed (.error (.tooManyObservers w.feed.limit))) := by
  simp only [Watch.act, Watch.subscribe, Feed.subscribe?, if_pos full]

theorem act_subscribe_room (room : ¬ w.feed.limit ≤ w.feed.count) :
    w.act .subscribe =
      ({ w with
        feed := { w.feed with
          lastId := w.feed.lastId + 1
          boxes := w.feed.boxes ++ [{ id := w.feed.lastId + 1, queue := [w.initialLine] }] } },
        .subscribed (.ok (w.feed.lastId + 1))) := by
  simp only [Watch.act, Watch.subscribe, Feed.subscribe?, if_neg room]

/-- Where both let an observer in, or neither does, they go on alike. -/
theorem Apart.subscribe (h : Apart slow w w')
    (same : Step.accepted? ⟨w', .subscribe⟩ = Step.accepted? ⟨w, .subscribe⟩) :
    Apart slow (w.act .subscribe).1 (w'.act .subscribe).1 ∧
      (w'.act .subscribe).2 = (w.act .subscribe).2 := by
  unfold Step.accepted? Step.answer at same
  by_cases full : w.feed.limit ≤ w.feed.count <;>
    by_cases full' : w'.feed.limit ≤ w'.feed.count
  · rw [act_subscribe_full full, act_subscribe_full full', h.limit]
    exact ⟨h, rfl⟩
  · rw [act_subscribe_full full, act_subscribe_room full'] at same
    cases same
  · rw [act_subscribe_room full, act_subscribe_full full'] at same
    cases same
  · have first : w'.initialLine = w.initialLine := by
      rw [initialLine, initialLine, h.roster]
    rw [act_subscribe_room full, act_subscribe_room full', h.lastId, first]
    refine ⟨⟨h.roster, h.capacity, h.limit, rfl, fun n hn => ?_⟩, rfl⟩
    have box : w'.feed.boxes.find? (·.id = n) = w.feed.boxes.find? (·.id = n) := h.box n hn
    show List.find? _ (_ ++ _) = List.find? _ (_ ++ _)
    rw [List.find?_append, List.find?_append, box]

/-- **An action in both runs keeps the watches apart at one mailbox only**, and is answered alike
unless it is about that mailbox. -/
theorem Apart.act (h : Apart slow w w') (a : Action)
    (same : Step.accepted? ⟨w', a⟩ = Step.accepted? ⟨w, a⟩) :
    Apart slow (w.act a).1 (w'.act a).1 ∧
      (a.handles slow = false → (w'.act a).2 = (w.act a).2) := by
  have other {n : Nat} (hn : decide (n = slow) = false) : w'.feed.find? n = w.feed.find? n :=
    h.box n (of_decide_eq_false hn)
  cases a with
  | ask r now =>
    refine ⟨h.ask r now, fun _ => ?_⟩
    show Answer.roster (w'.roster.ask now r).result = .roster (w.roster.ask now r).result
    rw [h.roster]
  | subscribe =>
    obtain ⟨apart, answer⟩ := h.subscribe same
    exact ⟨apart, fun _ => answer⟩
  | sendTo n line =>
    have apart := h.modify (g := (·.offer w.feed.capacity line)) (fun _ => Mailbox.id_offer) n
    refine ⟨?_, fun hn => ?_⟩
    · show Apart slow _ { w' with feed := w'.feed.modify n (·.offer w'.feed.capacity line) }
      rw [h.capacity]
      exact apart
    · show Answer.flag ((w'.feed.find? n).any _) = .flag ((w.feed.find? n).any _)
      rw [other hn, h.capacity]
  | remove n =>
    refine ⟨h.modify (g := ({ · with listed := false })) (fun _ => rfl) n, fun hn => ?_⟩
    show Answer.flag ((w'.feed.find? n).any _) = .flag ((w.feed.find? n).any _)
    rw [other hn]
  | take n count =>
    refine ⟨h.modify (g := fun m => { m with queue := m.queue.drop count }) (fun _ => rfl) n,
      fun hn => ?_⟩
    show Answer.lines ((w'.feed.find? n).elim _ _) = .lines ((w.feed.find? n).elim _ _)
    rw [other hn]
  | drain n =>
    refine ⟨h.modify (g := ({ · with queue := [] })) (fun _ => rfl) n, fun hn => ?_⟩
    show Answer.lines ((w'.feed.find? n).elim _ _) = .lines ((w.feed.find? n).elim _ _)
    rw [other hn]
  | drop n =>
    refine ⟨h.modify (g := ({ · with held := false, queue := [] })) (fun _ => rfl) n,
      fun hn => ?_⟩
    show Answer.flag ((w'.feed.find? n).any _) = .flag ((w.feed.find? n).any _)
    rw [other hn]

/-! ### Two runs -/

/-- Steps of two runs that are the same to all observers but one: the same action with the same
answer, unless it is about the mailbox of that one, the same roster after it, and for all others
the same lines read, and the same mailbox, on the list or off it. -/
structure Step.Agrees (slow : Nat) (s t : Step) : Prop where
  action : t.action = s.action
  answer : s.action.handles slow = false → t.answer = s.answer
  roster : t.after.roster = s.after.roster
  taken : ∀ n, n ≠ slow → t.taken n = s.taken n
  box : ∀ n, n ≠ slow → t.after.feed.find? n = s.after.feed.find? n
  lists : ∀ n, n ≠ slow → (t.after.Lists n ↔ s.after.Lists n)

/-- The others read nothing in an action about the mailbox of one. -/
theorem taken_of_handles {a : Action} (h : a.handles slow = true) {n : Nat} (hn : n ≠ slow)
    (w : Watch) : Step.taken n ⟨w, a⟩ = [] := by
  cases a with
  | take k count | drain k =>
    obtain rfl : k = slow := of_decide_eq_true h
    exact if_neg (Ne.symm hn)
  | ask | subscribe | sendTo | remove | drop => rfl

theorem Apart.agrees (h : Apart slow w w') (a : Action)
    (same : Step.accepted? ⟨w', a⟩ = Step.accepted? ⟨w, a⟩) :
    Step.Agrees slow ⟨w, a⟩ ⟨w', a⟩ := by
  obtain ⟨apart, answer⟩ := h.act a same
  refine ⟨rfl, answer, apart.roster, fun n hn => ?_, apart.box, fun n hn => ?_⟩
  · cases handles : a.handles slow with
    | true => rw [taken_of_handles handles hn, taken_of_handles handles hn]
    | false =>
      have same : Step.answer ⟨w', a⟩ = Step.answer ⟨w, a⟩ := answer handles
      rw [Step.taken, same, Step.taken]
  · unfold Lists
    rw [show Step.after ⟨w', a⟩ = (w'.act a).1 from rfl, apart.box n hn]
    rfl

/-- Lists of actions that differ in what one observer does with its mailbox. -/
inductive Aside (slow : Nat) : List Action → List Action → Prop where
  | nil : Aside slow [] []
  | left {a : Action} {as bs : List Action} (reads : a.reads slow = true)
      (rest : Aside slow as bs) : Aside slow (a :: as) bs
  | right {b : Action} {as bs : List Action} (reads : b.reads slow = true)
      (rest : Aside slow as bs) : Aside slow as (b :: bs)
  | both {a : Action} {as bs : List Action} (common : a.reads slow = false)
      (rest : Aside slow as bs) : Aside slow (a :: as) (a :: bs)

theorem Aside.append_right {as bs : List Action} (rest : Aside slow as bs) :
    ∀ {cs : List Action}, (∀ c ∈ cs, c.reads slow = true) → Aside slow as (cs ++ bs)
  | [], _ => rest
  | _ :: _, h =>
    have ⟨hc, hcs⟩ := List.forall_mem_cons.mp h
    .right hc (rest.append_right hcs)

theorem aside_of_filter_eq : ∀ {as bs : List Action},
    (as.filter fun a => !a.reads slow) = (bs.filter fun b => !b.reads slow) → Aside slow as bs
  | [], bs, h => by
    have all : ∀ b ∈ bs, b.reads slow = true := by
      simpa using List.filter_eq_nil_iff.mp h.symm
    have := Aside.nil.append_right all
    rwa [List.append_nil] at this
  | a :: as, bs, h => by
    cases reads : a.reads slow with
    | true =>
      rw [List.filter_cons_of_neg (by simp [reads])] at h
      exact .left reads (aside_of_filter_eq h)
    | false =>
      rw [List.filter_cons_of_pos (by simp [reads])] at h
      obtain ⟨before, after, rfl, all, -, rest⟩ := List.filter_eq_cons_iff.mp h.symm
      refine Aside.append_right (.both reads (aside_of_filter_eq rest.symm)) ?_
      simpa using all

theorem accepted?_of_ne {a : Action} (h : a ≠ .subscribe) (w : Watch) :
    Step.accepted? ⟨w, a⟩ = none := by
  cases a with
  | subscribe => exact absurd rfl h
  | ask | sendTo | remove | take | drain | drop => rfl

theorem accepted?_subscribe (w : Watch) : ∃ b, Step.accepted? ⟨w, .subscribe⟩ = some b := by
  unfold Step.accepted? Step.answer
  by_cases full : w.feed.limit ≤ w.feed.count
  · rw [act_subscribe_full full]
    exact ⟨false, rfl⟩
  · rw [act_subscribe_room full]
    exact ⟨true, rfl⟩

theorem accepted?_of_reads {a : Action} (h : a.reads slow = true) (w : Watch) :
    Step.accepted? ⟨w, a⟩ = none := by
  refine accepted?_of_ne ?_ w
  rintro rfl
  cases h

/-- If the same subscriptions are accepted in two runs with one first action, it is accepted in
both or in neither. -/
theorem accepted?_cons {a : Action} {ss ts : List Step}
    (h : (⟨w, a⟩ :: ss).filterMap Step.accepted? = (⟨w', a⟩ :: ts).filterMap Step.accepted?) :
    Step.accepted? ⟨w', a⟩ = Step.accepted? ⟨w, a⟩ ∧
      ss.filterMap Step.accepted? = ts.filterMap Step.accepted? := by
  by_cases ha : a = .subscribe
  · subst ha
    obtain ⟨b, hb⟩ := accepted?_subscribe w
    obtain ⟨b', hb'⟩ := accepted?_subscribe w'
    rw [List.filterMap_cons_some hb, List.filterMap_cons_some hb'] at h
    obtain ⟨rfl, rest⟩ := List.cons.inj h
    exact ⟨hb'.trans hb.symm, rest⟩
  · rw [List.filterMap_cons_none (accepted?_of_ne ha w),
      List.filterMap_cons_none (accepted?_of_ne ha w')] at h
    exact ⟨(accepted?_of_ne ha w').trans (accepted?_of_ne ha w).symm, h⟩

/-- **Runs that differ in what one observer does with its mailbox agree** at every common step, and
at the end. -/
theorem isolated_run {as bs : List Action} (h : Aside slow as bs) :
    ∀ {w w' : Watch}, Apart slow w w' →
      (w.steps as).filterMap Step.accepted? = (w'.steps bs).filterMap Step.accepted? →
      List.Forall₂ (Step.Agrees slow) ((w.steps as).filter fun s => !s.action.reads slow)
          ((w'.steps bs).filter fun s => !s.action.reads slow) ∧
        Apart slow (w.run as).1 (w'.run bs).1 := by
  induction h with
  | nil => exact fun apart _ => ⟨.nil, apart⟩
  | left reads _ ih =>
    intro w w' apart accepted
    rw [steps_cons, List.filterMap_cons_none (accepted?_of_reads reads w)] at accepted
    rw [steps_cons, List.filter_cons_of_neg (by simp [reads])]
    exact ih ((apart_of_reads reads w).symm.trans apart) accepted
  | right reads _ ih =>
    intro w w' apart accepted
    rw [steps_cons, List.filterMap_cons_none (accepted?_of_reads reads w')] at accepted
    rw [steps_cons, List.filter_cons_of_neg (by simp [reads])]
    exact ih (apart.trans (apart_of_reads reads w')) accepted
  | @both a as bs common _ ih =>
    intro w w' apart accepted
    rw [steps_cons, steps_cons] at accepted ⊢
    obtain ⟨same, accepted⟩ := accepted?_cons accepted
    obtain ⟨agree, final⟩ := ih (apart.act a same).1 accepted
    rw [List.filter_cons_of_pos (by simp [common]), List.filter_cons_of_pos (by simp [common])]
    exact ⟨.cons (apart.agrees a same) agree, final⟩

/-- **A slow observer does not affect the others.** Take two runs with the same requests,
replies, removals and subscriptions in the same order, in which all observers but one do the same
with their mailboxes, and in which the same subscriptions are accepted. Then the steps of the two
runs agree one by one, and so do the rosters and the other mailboxes at the end. What the one does
with its mailbox in between changes nothing else. -/
theorem slow_observer_isolated (w : Watch) (slow : Nat) (as bs : List Action)
    (same : (as.filter fun a => !a.reads slow) = bs.filter fun b => !b.reads slow)
    (accepted : (w.steps as).filterMap Step.accepted? =
      (w.steps bs).filterMap Step.accepted?) :
    List.Forall₂ (Step.Agrees slow) ((w.steps as).filter fun s => !s.action.reads slow)
        ((w.steps bs).filter fun s => !s.action.reads slow) ∧
      Apart slow (w.run as).1 (w.run bs).1 ∧
      ∀ s ∈ w.steps as ++ w.steps bs, s.action.reads slow = true → Apart slow s.before s.after := by
  obtain ⟨agree, final⟩ := isolated_run (aside_of_filter_eq same) (Apart.refl w) accepted
  exact ⟨agree, final, fun s _ reads => apart_of_reads reads s.before⟩

/-- Mailboxes of one line: an observer that reads in time stays on the list, and one that does not
is taken off by the next event. The other one notices nothing. -/
theorem slow_observer_isolated_full :
    let noon : Instant := ⟨⟨2024, 3, 1⟩, 43200, 0⟩
    let ask (r : Roster.Request) : Action := .ask r noon
    let one := ask (.register ⟨"one", "", "/src", .claude⟩)
    let prompt : List Action :=
      [.subscribe, .subscribe, .drain 1, .drain 2, one, .drain 1, .drain 2, ask (.mute .repo "api")]
    let late : List Action :=
      [.subscribe, .subscribe, .drain 2, one, .drain 2, .drop 1, ask (.mute .repo "api")]
    let w := Watch.new 1 2
    (prompt.filter fun a => !a.reads 1) = (late.filter fun a => !a.reads 1) ∧
      (w.steps prompt).filterMap Step.accepted? = (w.steps late).filterMap Step.accepted? ∧
      (w.run prompt).1.Lists 1 ∧ ¬ (w.run late).1.Lists 1 ∧ (w.run prompt).1.Lists 2 ∧
      (w.run late).1.feed.find? 2 = (w.run prompt).1.feed.find? 2 := by
  intro noon ask one prompt late w
  have same : (prompt.filter fun a => !a.reads 1) = late.filter fun a => !a.reads 1 := rfl
  have accepted :
      (w.steps prompt).filterMap Step.accepted? = (w.steps late).filterMap Step.accepted? := by
    decide
  obtain ⟨-, final, -⟩ := slow_observer_isolated w 1 prompt late same accepted
  exact ⟨same, accepted, by decide, by decide, by decide, final.box 2 (by decide)⟩

end SessionWatch.Watch
