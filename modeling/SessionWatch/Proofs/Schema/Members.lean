/-
# The fields of an object, one by one

A record is read off an object in one pass over its members. It comes to the
same to look at each field by itself: at the values under one of its names,
of which there may be one, or none if an absent field means something. So
neither the order of the members matters nor what members there are besides,
and of an object without repeated keys only what is found under the names.

Key definitions: `under`, `foundUnder`, `Shape.field?`, `Fields.byName?`.
Key theorems: `Fields.foldMembers_fill_cons`, `Shape.ofJson_record_byName`,
`Fields.byName?_congr`, `under_perm_foundUnder`.
-/
import Mathlib.Data.List.Nodup
import SessionWatch.Proofs.Json.Keys
import SessionWatch.Schema.FromValue

namespace SessionWatch

theorem toOption_eq_some {ε α : Type} {e : Except ε α} {a : α} :
    e.toOption = some a ↔ e = .ok a := by
  cases e <;> simp [Except.toOption]

/-! ### One field -/

/-- What an absent field means. -/
def Absence.value? {α : Type} : Absence α → Option α
  | .required => none
  | .implied v | .defaulted v => some v

/-- A field read from the values under its names. -/
def Shape.field? {α : Type} (source : Source) (s : Shape α) (absence : Absence α) :
    List Json → Option α
  | [] => absence.value?
  | [v] => (s.ofJson source v).toOption
  | _ :: _ :: _ => none

/-- The slot of a field after the values under its names. -/
def Shape.slot? {α : Type} (source : Source) (s : Shape α) :
    Option α → List Json → Option (Option α)
  | slot, [] => some slot
  | some _, _ :: _ => none
  | none, v :: vs =>
    match (s.ofJson source v).toOption with
    | none => none
    | some a => s.slot? source (some a) vs

section field

variable {α : Type} {source : Source} {s : Shape α} {absence : Absence α}

/-- What a slot holds after the values of a field, or else what an absent field means. -/
theorem Shape.field?_eq (vs : List Json) :
    s.field? source absence vs =
      (s.slot? source none vs).bind fun slot => slot.or absence.value? := by
  match vs with
  | [] => rfl
  | [v] =>
    rw [field?, slot?]
    cases s.ofJson source v <;> rfl
  | v :: _ :: _ =>
    rw [field?, slot?]
    cases s.ofJson source v <;> rfl

/-- Nothing depends on the order of the values, since there may be one at most. -/
theorem Shape.field?_perm {vs ws : List Json} (h : vs.Perm ws) :
    s.field? source absence vs = s.field? source absence ws := by
  match vs with
  | [] => rw [h.symm.eq_nil]
  | [v] => rw [List.perm_singleton.mp h.symm]
  | v :: v' :: vs =>
    match ws with
    | [] | [_] => cases h.length_eq
    | _ :: _ :: _ => rfl

end field

/-! ### The values under names -/

/-- The values of the members under some names. -/
def under (names : List String) (ms : List (String × Json)) : List Json :=
  (ms.filter fun m => m.1 ∈ names).map Prod.snd

section under

variable {ns : List String} {m : String × Json}

theorem under_cons_of_mem (h : m.1 ∈ ns) (ms : List (String × Json)) :
    under ns (m :: ms) = m.2 :: under ns ms := by
  rw [under, List.filter_cons_of_pos (by simpa using h)]
  rfl

theorem under_cons_of_not_mem (h : m.1 ∉ ns) (ms : List (String × Json)) :
    under ns (m :: ms) = under ns ms := by
  rw [under, List.filter_cons_of_neg (by simpa using h)]
  rfl

theorem under_perm {ms ms' : List (String × Json)} (h : ms.Perm ms') :
    (under ns ms).Perm (under ns ms') :=
  (h.filter _).map _

theorem under_eq_nil {ms : List (String × Json)} (h : ∀ m ∈ ms, m.1 ∉ ns) : under ns ms = [] := by
  rw [under, List.filter_eq_nil_iff.mpr fun m hm => by simpa using h m hm]
  rfl

/-- What is found in an object under some names. -/
def foundUnder (ms : List (String × Json)) (ns : List String) : List Json :=
  ns.filterMap fun n => Json.find? n ms

theorem foundUnder_cons_of_none {n : String} {ms : List (String × Json)}
    (h : Json.find? n ms = none) (ns : List String) : foundUnder ms (n :: ns) = foundUnder ms ns :=
  List.filterMap_cons_none h

theorem foundUnder_cons_of_some {n : String} {ms : List (String × Json)} {v : Json}
    (h : Json.find? n ms = some v) (ns : List String) :
    foundUnder ms (n :: ns) = v :: foundUnder ms ns :=
  List.filterMap_cons_some h

/-- A member with a new key adds its value to what is found. -/
theorem foundUnder_perm_of_new {k : String} {v : Json} {ms : List (String × Json)}
    (new : Json.find? k ms = none) : ∀ (ns : List String), ns.Nodup →
      (foundUnder ((k, v) :: ms) ns).Perm ((if k ∈ ns then [v] else []) ++ foundUnder ms ns)
  | [], _ => .refl _
  | n :: ns, distinct => by
    obtain ⟨apart, distinct⟩ := List.nodup_cons.mp distinct
    have ih := foundUnder_perm_of_new (v := v) new ns distinct
    by_cases own : k = n
    · subst own
      have here : Json.find? k ((k, v) :: ms) = some v := by rw [Json.find?, if_pos rfl]
      rw [foundUnder_cons_of_some here, foundUnder_cons_of_none new, if_pos List.mem_cons_self]
      rw [if_neg apart] at ih
      exact ih.cons v
    · have same : Json.find? n ((k, v) :: ms) = Json.find? n ms := by rw [Json.find?, if_neg own]
      have mem : k ∈ n :: ns ↔ k ∈ ns := by simp [own]
      simp only [mem]
      cases hn : Json.find? n ms with
      | none =>
        rw [foundUnder_cons_of_none (same.trans hn), foundUnder_cons_of_none hn]
        exact ih
      | some w =>
        rw [foundUnder_cons_of_some (same.trans hn), foundUnder_cons_of_some hn]
        exact (ih.cons w).trans List.perm_middle.symm

/-- Without repeated keys the values under some names are those that are found. -/
theorem under_perm_foundUnder (distinct : ns.Nodup) : ∀ {ms : List (String × Json)},
    (ms.map Prod.fst).Nodup → (under ns ms).Perm (foundUnder ms ns)
  | [], _ => by
    have nothing : foundUnder [] ns = [] := List.filterMap_eq_nil_iff.mpr fun _ _ => rfl
    rw [nothing]
    exact .refl _
  | (k, v) :: ms, keys => by
    obtain ⟨new, keys⟩ := List.nodup_cons.mp keys
    refine .trans ?_ (foundUnder_perm_of_new (Json.find?_eq_none new) ns distinct).symm
    have ih := under_perm_foundUnder distinct keys
    by_cases own : k ∈ ns
    · rw [under_cons_of_mem own, if_pos own]
      exact ih.cons v
    · rw [under_cons_of_not_mem own, if_neg own]
      exact ih

end under

/-! ### All fields -/

/-- Two values, if there are both. -/
def both {α β : Type} : Option α → Option β → Option (α × β)
  | some a, some b => some (a, b)
  | _, _ => none

@[simp] theorem both_none {α β : Type} (a : Option α) : both a (none : Option β) = none := by
  cases a <;> rfl

theorem both_eq_some {α β : Type} {a : Option α} {b : Option β} {p : α × β} :
    both a b = some p ↔ a = some p.1 ∧ b = some p.2 := by
  obtain ⟨x, y⟩ := p
  cases a <;> cases b <;> simp [both]

namespace Fields

/-- All names under which a field is found. -/
def names {α σ : Type} : Fields α σ → List String
  | .nil => []
  | .cons name aliases _ _ _ rest => name :: aliases ++ rest.names

/-- The fields of a record, each read by itself from the values under its names. -/
def byName? {α σ : Type} (source : Source) : Fields α σ → (List String → List Json) → Option α
  | .nil, _ => some ()
  | .cons name aliases s absence _ rest, values =>
    both (s.field? source absence (values (name :: aliases))) (rest.byName? source values)

/-- Only the values under the names of the fields matter. -/
theorem byName?_congr {source : Source} {values values' : List String → List Json} :
    ∀ {α σ : Type} (fs : Fields α σ), fs.names.Nodup →
      (∀ ns, ns.Nodup → (∀ n ∈ ns, n ∈ fs.names) → (values ns).Perm (values' ns)) →
      fs.byName? source values = fs.byName? source values'
  | _, _, .nil, _, _ => rfl
  | _, _, .cons name aliases s absence hidden rest, distinct, h => by
    obtain ⟨own, later, -⟩ := List.nodup_append.mp distinct
    have here := h (name :: aliases) own fun n hn => List.mem_append_left _ hn
    have others : rest.byName? source values = rest.byName? source values' :=
      rest.byName?_congr later fun ns hns within =>
        h ns hns fun n hn => List.mem_append_right _ (within n hn)
    rw [byName?, byName?, s.field?_perm here, others]

section one_by_one

variable {α β σ : Type} {source : Source} {name : String} {aliases : List String} {s : Shape α}
  {absence : Absence α} {hidden : α → Bool} {rest : Fields β σ}

/-- A key that no field has is passed over. -/
theorem fill_of_not_mem {key : String} {v : Json} : ∀ {α σ : Type} (fs : Fields α σ) (slots : σ),
    key ∉ fs.names → fs.fill source slots key v = .ok slots
  | _, _, .nil, _, _ => by
    unfold fill
    rfl
  | _, _, .cons name aliases s absence hidden rest, (slot, slots), h => by
    simp only [names, List.cons_append, List.mem_cons, List.mem_append, not_or] at h
    unfold fill
    simp only [if_neg (not_or.mpr ⟨h.1, h.2.1⟩), rest.fill_of_not_mem slots h.2.2]

theorem fill_cons (slot : Option α) (slots : σ) (key : String) (v : Json) :
    (Fields.cons name aliases s absence hidden rest).fill source (slot, slots) key v =
      if key = name ∨ key ∈ aliases then
        match slot with
        | some _ => .error (.duplicateField name)
        | none =>
          match s.ofJson source v with
          | .error m => .error m
          | .ok a => .ok (some a, slots)
      else
        match rest.fill source slots key v with
        | .error m => .error m
        | .ok slots => .ok (slot, slots) := rfl

theorem foldMembers_cons {τ : Type} (step : τ → String → Json → Except Json.Mismatch τ) (t : τ)
    (key : String) (v : Json) (ms : List (String × Json)) :
    (foldMembers step t ((key, v) :: ms)).toOption =
      (step t key v).toOption.bind fun t => (foldMembers step t ms).toOption := by
  rw [foldMembers]
  cases step t key v <;> rfl

/-- The first field is filled from the values under its names, and the others as if it were not
there. -/
theorem foldMembers_fill_cons
    (distinct : (names (.cons name aliases s absence hidden rest)).Nodup) :
    ∀ (ms : List (String × Json)) (slot : Option α) (slots : σ),
      (foldMembers ((Fields.cons name aliases s absence hidden rest).fill source)
        (slot, slots) ms).toOption =
      both (s.slot? source slot (under (name :: aliases) ms))
        (foldMembers (rest.fill source) slots ms).toOption
  | [], slot, slots => by cases slot <;> rfl
  | (key, v) :: ms, slot, slots => by
    have ih := foldMembers_fill_cons distinct ms
    rw [foldMembers_cons, foldMembers_cons, fill_cons]
    by_cases own : key = name ∨ key ∈ aliases
    · have apart : key ∉ rest.names := fun later =>
        (List.nodup_append.mp distinct).2.2 key (List.mem_cons.mpr own) key later rfl
      rw [under_cons_of_mem (List.mem_cons.mpr own), rest.fill_of_not_mem slots apart, if_pos own]
      cases slot with
      | some a => rfl
      | none =>
        rw [Shape.slot?]
        cases s.ofJson source v with
        | error m => rfl
        | ok a => exact ih (some a) slots
    · rw [under_cons_of_not_mem (mt List.mem_cons.mp own), if_neg own]
      cases rest.fill source slots key v with
      | error m => simp [Except.toOption]
      | ok slots => exact ih slot slots

theorem finish_cons (slot : Option α) (slots : σ) :
    ((Fields.cons name aliases s absence hidden rest).finish (slot, slots)).toOption =
      both (slot.or absence.value?) (rest.finish slots).toOption := by
  cases slot with
  | some a => rw [finish]; cases rest.finish slots <;> rfl
  | none =>
    cases absence with
    | required => rfl
    | implied a | defaulted a => rw [finish]; cases rest.finish slots <;> rfl

end one_by_one

/-- A record that is filled in one pass over all members comes to its fields, each read by
itself. -/
theorem toOption_fill_finish (source : Source) (ms : List (String × Json)) :
    ∀ {α σ : Type} (fs : Fields α σ), fs.names.Nodup →
      ((foldMembers (fs.fill source) fs.noSlots ms).toOption.bind fun slots =>
        (fs.finish slots).toOption) = fs.byName? source (under · ms)
  | _, _, .nil, _ => by
    have passed : ∀ ms, foldMembers (Fields.nil.fill source) () ms = .ok () := fun ms => by
      induction ms with
      | nil => rfl
      | cons m ms ih => exact ih
    rw [noSlots, passed]
    rfl
  | _, _, .cons name aliases s absence hidden rest, distinct => by
    have ih := toOption_fill_finish source ms rest (List.nodup_append.mp distinct).2.1
    rw [noSlots, foldMembers_fill_cons distinct, byName?, ← ih, Shape.field?_eq]
    cases s.slot? source none (under (name :: aliases) ms) with
    | none => rfl
    | some slot =>
      cases (foldMembers (rest.fill source) rest.noSlots ms).toOption with
      | none => simp
      | some slots => exact finish_cons slot slots

end Fields

/-- **A record is read off an object field by field.** -/
theorem Shape.ofJson_record_byName {α σ : Type} {title : String} {fs : Fields α σ}
    (distinct : fs.names.Nodup) (source : Source) (ms : List (String × Json)) :
    ((Shape.record title fs).ofJson source (.object ms)).toOption =
      fs.byName? source (under · ms) := by
  rw [← Fields.toOption_fill_finish source ms fs distinct, Shape.ofJson]
  cases foldMembers (fs.fill source) fs.noSlots ms <;> rfl

/-- Of an object without repeated keys only what is found under the names of the fields matters. -/
theorem Shape.ofJson_record_find? {α σ : Type} {title : String} {fs : Fields α σ}
    (distinct : fs.names.Nodup) (source : Source) {ms : List (String × Json)}
    (keys : (ms.map Prod.fst).Nodup) :
    ((Shape.record title fs).ofJson source (.object ms)).toOption =
      fs.byName? source (foundUnder ms) := by
  rw [Shape.ofJson_record_byName distinct]
  exact fs.byName?_congr distinct fun ns hns _ => under_perm_foundUnder hns keys

end SessionWatch
