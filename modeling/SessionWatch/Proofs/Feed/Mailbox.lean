/-
# One mailbox of a feed

What an operation on a feed does to the mailbox of one observer. An operation
is about the mailbox of its own observer or offers a line to all of them, and
a new observer gets an id that no mailbox has, so the mailbox of an observer
is followed through a run by these equations alone.

Key definitions: `Mailbox.Sound`, `Feed.Sound`.
Key theorems: `Feed.find?_publish`, `Feed.find?_modify`, `Feed.find?_subscribe`,
`Feed.find?_new_observer`, `Mailbox.queue_offer`.
-/
import SessionWatch.Feed.Basic

namespace SessionWatch

/-! ### A mailbox -/

namespace Mailbox

/-- A mailbox that nobody holds is empty. -/
def Sound (m : Mailbox) : Prop := m.held = false → m.queue = []

variable {capacity : Nat} {line : String} {m : Mailbox}

@[simp] theorem id_offer : (m.offer capacity line).id = m.id := by
  unfold offer
  split
  · split <;> rfl
  · rfl

@[simp] theorem held_offer : (m.offer capacity line).held = m.held := by
  unfold offer
  split
  · split <;> rfl
  · rfl

/-- A line is put in exactly where the mailbox stays on the list. -/
theorem queue_offer : (m.offer capacity line).queue =
    if (m.offer capacity line).listed then m.queue ++ [line] else m.queue := by
  unfold offer
  split
  · split <;> simp_all
  · simp_all

theorem offer_unlisted (h : m.listed = false) : m.offer capacity line = m := by
  simp [offer, h]

/-- A line is put in where the mailbox is on the list and has room. -/
theorem offer_of_room (h : (m.listed && m.hasRoom capacity) = true) :
    m.offer capacity line = { m with queue := m.queue ++ [line] } := by
  obtain ⟨listed, room⟩ := Bool.and_eq_true_iff.mp h
  rw [offer, if_pos listed, if_pos room]

/-- Otherwise it leaves the mailbox off the list. -/
theorem offer_of_no_room (h : (m.listed && m.hasRoom capacity) = false) :
    m.offer capacity line = { m with listed := false } := by
  cases listed : m.listed with
  | false =>
    rw [offer_unlisted listed, ← listed]
  | true =>
    rw [listed, Bool.true_and] at h
    simp [offer, listed, h]

theorem held_of_listed_offer (h : (m.offer capacity line).listed = true) : m.held = true := by
  unfold offer at h
  split at h
  · rename_i hl
    split at h
    · rename_i hr
      simp only [hasRoom, Bool.and_eq_true] at hr
      exact hr.1
    · simp at h
  · rename_i hl
    simp [h] at hl

theorem Sound.offer (h : m.Sound) : (m.offer capacity line).Sound := by
  intro hh
  rw [held_offer] at hh
  rw [queue_offer]
  split
  · rename_i hl
    rw [held_of_listed_offer hl] at hh
    cases hh
  · exact h hh

end Mailbox

/-! ### The mailboxes of a feed -/

namespace Feed

/-- No id was given out ahead of the last one, and mailboxes that nobody holds are empty. -/
structure Sound (f : Feed) : Prop where
  id_le : ∀ m ∈ f.boxes, m.id ≤ f.lastId
  box : ∀ m ∈ f.boxes, m.Sound

theorem sound_new (capacity limit : Nat) : (Feed.new capacity limit).Sound := by
  constructor <;> simp [Feed.new]

theorem find?_modify {f : Feed} {g : Mailbox → Mailbox} (hg : ∀ m, (g m).id = m.id) (k n : Nat) :
    (f.modify k g).find? n = (f.find? n).map fun m => if k = n then g m else m := by
  unfold find? modify
  simp only [List.find?_map]
  have same : ((fun m : Mailbox => decide (m.id = n)) ∘ fun m => if m.id = k then g m else m) =
      fun m => decide (m.id = n) := by
    funext m
    by_cases h : m.id = k <;> simp [h, hg]
  rw [same]
  cases h : f.boxes.find? fun m => m.id = n with
  | none => rfl
  | some m =>
    have hm : m.id = n := by simpa using List.find?_some h
    by_cases hk : k = n
    · simp [hk, hm]
    · have : m.id ≠ k := fun he => hk (he ▸ hm)
      simp [hk, this]

/-- A change of one mailbox is none of another. -/
theorem find?_modify_of_ne {f : Feed} {g : Mailbox → Mailbox} (hg : ∀ m, (g m).id = m.id)
    {k n : Nat} (apart : k ≠ n) : (f.modify k g).find? n = f.find? n := by
  rw [find?_modify hg]
  simp only [if_neg apart]
  exact Option.map_id'

theorem find?_modify_self {f : Feed} {g : Mailbox → Mailbox} (hg : ∀ m, (g m).id = m.id) {k : Nat}
    {m : Mailbox} (h : f.find? k = some m) : (f.modify k g).find? k = some (g m) := by
  rw [find?_modify hg, h, Option.map_some, if_pos rfl]

theorem find?_publish (f : Feed) (line : String) (n : Nat) :
    (f.publish line).find? n = (f.find? n).map (·.offer f.capacity line) := by
  unfold find? publish
  simp only [List.find?_map]
  congr 2
  funext m
  simp

/-- An observer that a line was offered to is on the list exactly if it got the line. -/
theorem listed_sendTo (f : Feed) (id : Nat) (line : String) :
    ((f.sendTo id line).1.find? id).any (·.listed) = (f.sendTo id line).2 := by
  unfold sendTo
  dsimp only
  rw [find?_modify (fun _ => Mailbox.id_offer)]
  cases f.find? id with
  | none => rfl
  | some m =>
    rw [Option.map_some, if_pos rfl, Option.any_some, Option.any_some, Mailbox.offer]
    cases hl : m.listed <;> cases hr : m.hasRoom f.capacity <;> simp [hl]

/-- A new observer leaves the mailboxes as they are. -/
theorem find?_subscribe {f f' : Feed} {line : String} {k n : Nat} {m : Mailbox}
    (h : f.subscribe? line = some (f', k)) (hm : f.find? n = some m) : f'.find? n = some m := by
  unfold subscribe? at h
  split at h
  · cases h
  · obtain ⟨rfl, -⟩ := Prod.mk.inj (Option.some.inj h)
    unfold find? at hm ⊢
    rw [List.find?_append, hm]
    rfl

/-- A new observer has a mailbox of its own, with its first line in it. -/
theorem find?_new_observer {f f' : Feed} {line : String} {k : Nat} (hf : f.Sound)
    (h : f.subscribe? line = some (f', k)) : f'.find? k = some { id := k, queue := [line] } := by
  unfold subscribe? at h
  split at h
  · cases h
  · obtain ⟨rfl, rfl⟩ := Prod.mk.inj (Option.some.inj h)
    unfold find?
    have fresh : f.boxes.find? (fun m => decide (m.id = f.lastId + 1)) = none := by
      rw [List.find?_eq_none]
      intro m hm
      have := hf.id_le m hm
      simp only [decide_eq_true_eq]
      omega
    rw [List.find?_append, fresh]
    simp

theorem Sound.modify {f : Feed} (h : f.Sound) {g : Mailbox → Mailbox} (hg : ∀ m, (g m).id = m.id)
    (hs : ∀ m, m.Sound → (g m).Sound) (k : Nat) : (f.modify k g).Sound := by
  constructor
  · intro m hm
    obtain ⟨m₀, hm₀, rfl⟩ := List.mem_map.mp hm
    have := h.id_le m₀ hm₀
    show _ ≤ f.lastId
    split
    · rw [hg]
      exact this
    · exact this
  · intro m hm
    obtain ⟨m₀, hm₀, rfl⟩ := List.mem_map.mp hm
    split
    · exact hs m₀ (h.box m₀ hm₀)
    · exact h.box m₀ hm₀

theorem Sound.publish {f : Feed} (h : f.Sound) (line : String) : (f.publish line).Sound := by
  constructor
  · intro m hm
    obtain ⟨m₀, hm₀, rfl⟩ := List.mem_map.mp hm
    rw [Mailbox.id_offer]
    exact h.id_le m₀ hm₀
  · intro m hm
    obtain ⟨m₀, hm₀, rfl⟩ := List.mem_map.mp hm
    exact (h.box m₀ hm₀).offer

theorem Sound.subscribe {f f' : Feed} {line : String} {k : Nat} (hf : f.Sound)
    (h : f.subscribe? line = some (f', k)) : f'.Sound := by
  unfold subscribe? at h
  split at h
  · cases h
  · obtain ⟨rfl, -⟩ := Prod.mk.inj (Option.some.inj h)
    constructor
    · intro m hm
      show m.id ≤ f.lastId + 1
      rcases List.mem_append.mp hm with hm | hm
      · have := hf.id_le m hm
        omega
      · obtain rfl := List.mem_singleton.mp hm
        exact Nat.le_refl _
    · intro m hm
      rcases List.mem_append.mp hm with hm | hm
      · exact hf.box m hm
      · rw [List.mem_singleton.mp hm]
        intro hh
        cases hh

end Feed

end SessionWatch
