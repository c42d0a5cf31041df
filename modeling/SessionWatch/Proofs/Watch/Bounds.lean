/-
# Bounds and ids of observers

The bounds of a feed are fixed and at least one. There are never more
observers than the one bound allows, and never more lines in a mailbox than
the other one. An observer gets an id above all that were given out before.

Key definitions: `Feed.Bounded`.
Key theorems: `Watch.bounded_run`, `Watch.subscribe_ok`, `Watch.lastId_act`.
-/
import SessionWatch.Proofs.Watch.Step

namespace SessionWatch

/-! ### Bounds -/

/-- There are no more observers, and no more lines in a mailbox, than is allowed. -/
structure Feed.Bounded (capacity limit : Nat) (f : Feed) : Prop where
  sameCapacity : f.capacity = capacity
  sameLimit : f.limit = limit
  few : f.count ≤ limit
  short : ∀ m ∈ f.boxes, m.queue.length ≤ capacity

namespace Feed

variable {capacity limit : Nat} {f : Feed}

/-- A change of the mailboxes that puts none on the list and fills none beyond its bound. -/
theorem Bounded.map (h : f.Bounded capacity limit) {g : Mailbox → Mailbox}
    (listed : ∀ m, (g m).listed = true → m.listed = true)
    (short : ∀ m, m.queue.length ≤ capacity → (g m).queue.length ≤ capacity) :
    ({ f with boxes := f.boxes.map g } : Feed).Bounded capacity limit := by
  refine ⟨h.sameCapacity, h.sameLimit, ?_, fun m hm => ?_⟩
  · refine Nat.le_trans ?_ h.few
    rw [count, List.countP_map]
    exact List.countP_mono_left fun m _ => listed m
  · obtain ⟨m₀, hm₀, rfl⟩ := List.mem_map.mp hm
    exact short m₀ (h.short m₀ hm₀)

theorem Bounded.modify (h : f.Bounded capacity limit) {g : Mailbox → Mailbox}
    (listed : ∀ m, (g m).listed = true → m.listed = true)
    (short : ∀ m, m.queue.length ≤ capacity → (g m).queue.length ≤ capacity) (n : Nat) :
    (f.modify n g).Bounded capacity limit := by
  refine h.map (fun m => ?_) fun m hm => ?_
  · split
    · exact listed m
    · exact id
  · split
    · exact short m hm
    · exact hm

theorem listed_of_listed_offer {line : String} {m : Mailbox}
    (h : (m.offer capacity line).listed = true) : m.listed = true := by
  by_contra unlisted
  rw [Mailbox.offer_unlisted (Bool.not_eq_true _ ▸ unlisted)] at h
  exact unlisted h

theorem length_offer {line : String} {m : Mailbox} (h : m.queue.length ≤ capacity) :
    (m.offer capacity line).queue.length ≤ capacity := by
  cases room : m.listed && m.hasRoom capacity with
  | true =>
    rw [Mailbox.offer_of_room room]
    simp only [Mailbox.hasRoom, Bool.and_eq_true, decide_eq_true_eq] at room
    rw [List.length_append]
    exact room.2.2
  | false =>
    rw [Mailbox.offer_of_no_room room]
    exact h

theorem Bounded.publish (h : f.Bounded capacity limit) (line : String) :
    (f.publish line).Bounded capacity limit := by
  have fixed := h.sameCapacity
  subst fixed
  exact h.map (fun _ => listed_of_listed_offer) fun _ => length_offer

theorem Bounded.sendTo (h : f.Bounded capacity limit) (n : Nat) (line : String) :
    (f.sendTo n line).1.Bounded capacity limit := by
  have fixed := h.sameCapacity
  subst fixed
  exact h.modify (fun _ => listed_of_listed_offer) (fun _ => length_offer) n

theorem Bounded.subscribe (h : f.Bounded capacity limit) (room : 1 ≤ capacity) {f' : Feed}
    {line : String} {n : Nat} (hs : f.subscribe? line = some (f', n)) :
    f'.Bounded capacity limit := by
  unfold subscribe? at hs
  split at hs
  · cases hs
  · next free =>
    obtain ⟨rfl, -⟩ := Prod.mk.inj (Option.some.inj hs)
    refine ⟨h.sameCapacity, h.sameLimit, ?_, fun m hm => ?_⟩
    · rw [h.sameLimit] at free
      rw [count, List.countP_append]
      have one : [({ id := f.lastId + 1, queue := [line] } : Mailbox)].countP (·.listed) = 1 := rfl
      rw [one]
      exact Nat.not_le.mp free
    · rcases List.mem_append.mp hm with hm | hm
      · exact h.short m hm
      · rw [List.mem_singleton.mp hm]
        exact room

theorem bounded_new (capacity limit : Nat) :
    (Feed.new capacity limit).Bounded (max capacity 1) (max limit 1) :=
  ⟨rfl, rfl, Nat.zero_le _, fun _ hm => absurd hm List.not_mem_nil⟩

end Feed

namespace Watch

variable {capacity limit : Nat} {w : Watch}

theorem bounded_act (room : 1 ≤ capacity) (h : w.feed.Bounded capacity limit) (a : Action) :
    (w.act a).1.feed.Bounded capacity limit := by
  cases a with
  | ask r now =>
    rw [feed_act_ask]
    cases (w.roster.ask now r).event with
    | none => exact h
    | some e => exact h.publish e.line
  | subscribe =>
    show w.subscribe.1.feed.Bounded capacity limit
    unfold subscribe
    split
    · exact h
    · exact h.subscribe room ‹_›
  | sendTo n line => exact h.sendTo n line
  | remove n =>
    exact h.modify (g := ({ · with listed := false })) (fun _ => nofun) (fun _ hm => hm) n
  | take n k =>
    refine h.modify (g := fun m => { m with queue := m.queue.drop k }) (fun _ => id) ?_ n
    intro m hm
    rw [List.length_drop]
    exact Nat.le_trans (Nat.sub_le _ _) hm
  | drain n =>
    exact h.modify (g := ({ · with queue := [] })) (fun _ => id) (fun _ _ => Nat.zero_le _) n
  | drop n =>
    exact h.modify (g := ({ · with held := false, queue := [] })) (fun _ => id)
      (fun _ _ => Nat.zero_le _) n

/-- **The bounds are kept all along a run.** -/
theorem bounded_run (capacity limit : Nat) (as : List Action) :
    ((Watch.new capacity limit).run as).1.feed.Bounded (max capacity 1) (max limit 1) :=
  run_keeps (P := fun w => w.feed.Bounded _ _) (fun _ a h => bounded_act (Nat.le_max_right _ _) h a)
    as _ (Feed.bounded_new capacity limit)

/-! ### Ids -/

/-- A new observer gets the next id. -/
theorem subscribe_ok {n : Nat} (h : w.subscribe.2 = .ok n) :
    n = w.feed.lastId + 1 ∧ w.subscribe.1.feed.lastId = n := by
  have hs := feed_subscribe h
  unfold Feed.subscribe? at hs
  split at hs
  · cases hs
  · obtain ⟨hfeed, rfl⟩ := Prod.mk.inj (Option.some.inj hs)
    exact ⟨rfl, hfeed ▸ rfl⟩

theorem lastId_act (w : Watch) (a : Action) : w.feed.lastId ≤ (w.act a).1.feed.lastId := by
  cases a with
  | ask r now =>
    rw [feed_act_ask]
    cases (w.roster.ask now r).event <;> exact Nat.le_refl _
  | subscribe =>
    show w.feed.lastId ≤ w.subscribe.1.feed.lastId
    cases h : w.subscribe.2 with
    | error p => exact Nat.le_of_eq (by rw [subscribe_of_error h])
    | ok n =>
      obtain ⟨rfl, last⟩ := subscribe_ok h
      omega
  | sendTo | remove | take | drain | drop => exact Nat.le_refl _

end Watch

end SessionWatch
