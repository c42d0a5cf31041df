/-
# Keys of objects

Members are put in order by their keys, and of the members under one key the
last one stays. Nothing else happens to them: distinct keys come out as they
are, in order, and no key is repeated. What is found under a key does not
depend on the order of members with distinct keys.

Key definitions: `Json.valueOf`.
Key theorems: `Json.collect_perm`, `Json.collect_sorted`, `Json.nodup_collect`,
`Json.find?_perm`, `Json.find?_collect_canonical`.
-/
import Mathlib.Data.List.Perm.Basic
import Mathlib.Data.String.Basic
import SessionWatch.Json.Value

namespace SessionWatch.Json

section keys

variable {α : Type}

/-! ### Members in order -/

theorem put_perm {k : String} {v : α} {ms : List (String × α)} (h : k ∉ ms.map Prod.fst) :
    (put k v ms).Perm ((k, v) :: ms) := by
  induction ms with
  | nil => exact .refl _
  | cons m ms ih =>
    obtain ⟨k', v'⟩ := m
    simp only [List.map_cons, List.mem_cons, not_or] at h
    rw [put, if_neg (Ne.symm h.1)]
    split
    · exact .refl _
    · exact ((ih h.2).cons _).trans (.swap _ _ _)

theorem foldl_put_perm : ∀ (ms acc : List (String × α)), (ms.map Prod.fst).Nodup →
    (∀ k ∈ acc.map Prod.fst, k ∉ ms.map Prod.fst) →
      (ms.foldl (fun acc m => put m.1 m.2 acc) acc).Perm (acc ++ ms)
  | [], acc, _, _ => by
    rw [List.append_nil]
    exact .refl _
  | (k, v) :: ms, acc, distinct, apart => by
    rw [List.map_cons, List.nodup_cons] at distinct
    have new : k ∉ acc.map Prod.fst := fun h => apart k h List.mem_cons_self
    have hput := put_perm (v := v) new
    have apart' : ∀ k' ∈ (put k v acc).map Prod.fst, k' ∉ ms.map Prod.fst := by
      intro k' hk'
      rw [(hput.map Prod.fst).mem_iff, List.map_cons, List.mem_cons] at hk'
      rcases hk' with rfl | hk'
      · exact distinct.1
      · exact fun h => apart k' hk' (List.mem_cons_of_mem _ h)
    refine (foldl_put_perm ms (put k v acc) distinct.2 apart').trans ?_
    exact (hput.append_right ms).trans List.perm_middle.symm

/-- Distinct keys are put in order and nothing else. -/
theorem collect_perm {ms : List (String × α)} (h : (ms.map Prod.fst).Nodup) :
    (collect ms).Perm ms :=
  foldl_put_perm ms [] h fun _ hk => absurd hk List.not_mem_nil

theorem mem_put {k : String} {v : α} {m : String × α} : ∀ {ms : List (String × α)},
    m ∈ put k v ms → m.1 = k ∨ m ∈ ms
  | [], h => by
    rw [put, List.mem_singleton] at h
    exact .inl (congrArg Prod.fst h)
  | (k', v') :: ms, h => by
    rw [put] at h
    split at h
    · rcases List.mem_cons.mp h with rfl | h
      · exact .inl rfl
      · exact .inr (List.mem_cons_of_mem _ h)
    · split at h
      · rcases List.mem_cons.mp h with rfl | h
        · exact .inl rfl
        · exact .inr h
      · rcases List.mem_cons.mp h with rfl | h
        · exact .inr List.mem_cons_self
        · exact (mem_put h).imp_right (List.mem_cons_of_mem _)

/-- A value is put in its place among keys that are in order. -/
theorem put_sorted {k : String} {v : α} : ∀ {ms : List (String × α)},
    ms.Pairwise (fun m m' => m.1 < m'.1) → (put k v ms).Pairwise fun m m' => m.1 < m'.1
  | [], _ => List.pairwise_singleton _ _
  | (k', v') :: ms, h => by
    obtain ⟨first, later⟩ := List.pairwise_cons.mp h
    rw [put]
    split
    · next same =>
      subst same
      exact List.pairwise_cons.mpr ⟨first, later⟩
    · next other =>
      split
      · next before =>
        refine List.pairwise_cons.mpr ⟨fun m hm => ?_, h⟩
        rcases List.mem_cons.mp hm with rfl | hm
        · exact before
        · exact before.trans (first m hm)
      · next after =>
        refine List.pairwise_cons.mpr ⟨fun m hm => ?_, put_sorted later⟩
        rcases mem_put hm with rfl | hm
        · exact lt_of_le_of_ne (not_lt.mp after) other
        · exact first m hm

theorem sorted_foldl_put : ∀ (ms acc : List (String × α)),
    acc.Pairwise (fun m m' => m.1 < m'.1) →
      (ms.foldl (fun acc m => put m.1 m.2 acc) acc).Pairwise fun m m' => m.1 < m'.1
  | [], _, h => h
  | _ :: ms, _, h => sorted_foldl_put ms _ (put_sorted h)

/-- A value under a later key is put at the end. -/
theorem put_last {k : String} {v : α} : ∀ {ms : List (String × α)}, (∀ m ∈ ms, m.1 < k) →
    put k v ms = ms ++ [(k, v)]
  | [], _ => rfl
  | (k', v') :: ms, h => by
    obtain ⟨first, later⟩ := List.forall_mem_cons.mp h
    rw [put, if_neg (ne_of_lt first), if_neg (lt_asymm first), put_last later]
    rfl

theorem foldl_put_sorted : ∀ (ms acc : List (String × α)),
    (acc ++ ms).Pairwise (fun m m' => m.1 < m'.1) →
      ms.foldl (fun acc m => put m.1 m.2 acc) acc = acc ++ ms
  | [], acc, _ => (List.append_nil acc).symm
  | (k, v) :: ms, acc, h => by
    have before : ∀ m ∈ acc, m.1 < k := fun m hm =>
      (List.pairwise_append.mp h).2.2 m hm (k, v) List.mem_cons_self
    have next : acc ++ (k, v) :: ms = (acc ++ [(k, v)]) ++ ms := by simp
    rw [next] at h
    rw [List.foldl_cons, put_last before, foldl_put_sorted ms _ h, next]

/-- Members in order stay as they are. -/
theorem collect_sorted {ms : List (String × α)} (h : ms.Pairwise fun m m' => m.1 < m'.1) :
    collect ms = ms := foldl_put_sorted ms [] h

/-- No key is repeated among members that were put in order. -/
theorem nodup_collect (ms : List (String × α)) : ((collect ms).map Prod.fst).Nodup :=
  List.pairwise_map.mpr ((sorted_foldl_put ms [] .nil).imp ne_of_lt)

/-! ### What is found -/

theorem find?_eq_none {k : String} {ms : List (String × α)} (h : k ∉ ms.map Prod.fst) :
    find? k ms = none := by
  induction ms with
  | nil => rfl
  | cons m ms ih =>
    rw [List.map_cons, List.mem_cons, not_or] at h
    rw [find?, if_neg (Ne.symm h.1), ih h.2]

/-- Among distinct keys a member is found under its key. -/
theorem find?_of_mem {ms : List (String × α)} (distinct : (ms.map Prod.fst).Nodup)
    {k : String} {v : α} (h : (k, v) ∈ ms) : find? k ms = some v := by
  induction ms with
  | nil => cases h
  | cons m ms ih =>
    rw [List.map_cons, List.nodup_cons] at distinct
    rcases List.mem_cons.mp h with rfl | h
    · rw [find?, if_pos rfl]
    · have other : m.1 ≠ k := by
        rintro rfl
        exact distinct.1 (List.mem_map.mpr ⟨_, h, rfl⟩)
      rw [find?, if_neg other, ih distinct.2 h]

theorem find?_map (f : α → α) (k : String) (ms : List (String × α)) :
    find? k (ms.map fun m => (m.1, f m.2)) = (find? k ms).map f := by
  induction ms with
  | nil => rfl
  | cons m ms ih =>
    rw [List.map_cons, find?, find?]
    split
    · rfl
    · exact ih

theorem find?_filter {p : String × α → Bool} {k : String} :
    ∀ {ms : List (String × α)}, (∀ m ∈ ms, m.1 = k → p m = true) →
      find? k (ms.filter p) = find? k ms
  | [], _ => rfl
  | m :: ms, h => by
    obtain ⟨here, later⟩ := List.forall_mem_cons.mp h
    have ih := find?_filter later
    by_cases kept : p m = true
    · rw [List.filter_cons_of_pos kept, find?, find?, ih]
    · rw [List.filter_cons_of_neg kept, find?, if_neg (mt here kept), ih]

theorem mem_of_find? {k : String} {v : α} {ms : List (String × α)} (h : find? k ms = some v) :
    (k, v) ∈ ms := by
  induction ms with
  | nil => cases h
  | cons m ms ih =>
    rw [find?] at h
    split at h
    · next same =>
      cases h
      exact same ▸ List.mem_cons_self
    · exact List.mem_cons_of_mem _ (ih h)

/-- Under distinct keys the same is found in whatever order the members come. -/
theorem find?_perm {ms ms' : List (String × α)} (h : ms.Perm ms')
    (distinct : (ms.map Prod.fst).Nodup)
    (k : String) : find? k ms = find? k ms' := by
  have distinct' := ((h.map Prod.fst).nodup_iff).mp distinct
  cases hk : find? k ms with
  | some v => exact (find?_of_mem distinct' (h.mem_iff.mp (mem_of_find? hk))).symm
  | none =>
    cases hk' : find? k ms' with
    | none => rfl
    | some v =>
      rw [find?_of_mem distinct (h.mem_iff.mpr (mem_of_find? hk'))] at hk
      cases hk

end keys

/-! ### What keys stand for -/

/-- What a key of an object stands for: of the members under it the last one. -/
def valueOf (ms : List (String × Json)) (k : String) : Option Json :=
  (find? k ms.reverse).map canonical

theorem find?_collect_canonical (ms : List (String × Json)) (k : String) :
    find? k (collect (ms.map fun m => (m.1, canonical m.2))) = valueOf ms k := by
  rw [find?_collect, ← List.map_reverse, find?_map, valueOf]

/-- A key stands for a text only if the text is there under the key. -/
theorem mem_of_valueOf {ms : List (String × Json)} {k s : String}
    (h : valueOf ms k = some (.string s)) : (k, .string s) ∈ ms := by
  obtain ⟨v, hv, same⟩ := Option.map_eq_some_iff.mp h
  have hmem := List.mem_reverse.mp (mem_of_find? hv)
  cases v <;> cases same
  exact hmem

theorem valueOf_filter {p : String × Json → Bool} {k : String} {ms : List (String × Json)}
    (h : ∀ m ∈ ms, m.1 = k → p m = true) : valueOf (ms.filter p) k = valueOf ms k := by
  rw [valueOf, ← List.filter_reverse, find?_filter fun m hm => h m (List.mem_reverse.mp hm),
    valueOf]

theorem valueOf_perm {ms ms' : List (String × Json)} (h : ms.Perm ms')
    (distinct : (ms.map Prod.fst).Nodup) (k : String) : valueOf ms k = valueOf ms' k := by
  have distinct' : (ms.reverse.map Prod.fst).Nodup :=
    (((List.reverse_perm ms).map Prod.fst).nodup_iff).mpr distinct
  have hrev : ms.reverse.Perm ms'.reverse :=
    (List.reverse_perm ms).trans (h.trans (List.reverse_perm ms').symm)
  rw [valueOf, find?_perm hrev distinct', valueOf]

end SessionWatch.Json
