/-
# Values of a shape are read back

A value of a shape, written as JSON, is read back as it was, in the layout of
the writer or put in order by keys. Each way to build a shape keeps this: a
record keeps it if its names are distinct and what it hides is what an absent
field means. The members of a record may come in any order, so nothing depends
on how keys are sorted.

Key definitions: `Json.Layout`, `Shape.ReadsBack`, `Fields.Fits`.
Key theorems: `Fields.byName?_of_written`, `Shape.ofJson_record`.
-/
import SessionWatch.Proofs.Schema.Members
import SessionWatch.Schema.Write
import SessionWatch.Session.Basic

namespace SessionWatch

/-! ### Shapes -/

/-- How a value that was written is laid out when it is read: as it was written, or with all
members put in order by keys. -/
inductive Json.Layout : (Json → Json) → Prop where
  | written : Layout id
  | sorted : Layout Json.canonical

/-- The value is read back from what stands for it, in either layout. -/
def Shape.ReadsBack {α : Type} (s : Shape α) (v : α) : Prop :=
  ∀ source f, Json.Layout f → s.ofJson source (f (s.toJson v)) = .ok v

theorem Json.Layout.ne_null {f : Json → Json} (layout : Json.Layout f) {v : Json}
    (h : v ≠ .null) : f v ≠ .null := by
  cases layout with
  | written => exact h
  | sorted =>
    cases v with
    | null => exact absurd rfl h
    | array vs =>
      rw [Json.canonical_array]
      nofun
    | object ms =>
      rw [Json.canonical_object]
      nofun
    | _ => nofun

namespace Shape

variable {α β : Type} {s : Shape α}

theorem readsBack_text (wanted v : String) : (Shape.text wanted).ReadsBack v := by
  rintro source _ ⟨⟩ <;> rfl

theorem readsBack_flag (v : Bool) : Shape.flag.ReadsBack v := by
  rintro source _ ⟨⟩ <;> rfl

/-- Any value that is in order is read back. -/
theorem readsBack_any {v : Json} (sorted : v.canonical = v) : Shape.any.ReadsBack v := by
  rintro source _ ⟨⟩
  · exact congrArg Except.ok sorted
  · show Except.ok v.canonical.canonical = .ok v
    rw [sorted, sorted]

theorem readsBack_oneOf {naming : Naming α} {v : α} (h : naming.find? (naming.name v) = some v) :
    (Shape.oneOf naming).ReadsBack v := by
  have read : naming.read (naming.name v) = .ok v := by rw [Naming.read, h]
  rintro source _ ⟨⟩
  · exact read
  · exact read

theorem ReadsBack.some {v : α} (h : s.ReadsBack v) (there : s.toJson v ≠ .null) :
    (Shape.optional s).ReadsBack (some v) := by
  intro source f layout
  show (Shape.optional s).ofJson source (f (s.toJson v)) = _
  rw [Shape.ofJson, h source f layout]
  exact layout.ne_null there

theorem readsBack_none : (Shape.optional s).ReadsBack none := by
  rintro source _ ⟨⟩ <;> rfl

theorem readEach_map {γ δ : Type} {read : γ → Except Json.Mismatch δ} {write : δ → γ} :
    ∀ (vs : List δ) (acc : List δ), (∀ v ∈ vs, read (write v) = .ok v) →
      readEach read acc (vs.map write) = .ok (acc.reverse ++ vs)
  | [], acc, _ => by rw [List.append_nil]; rfl
  | v :: vs, acc, h => by
    obtain ⟨hv, hvs⟩ := List.forall_mem_cons.mp h
    rw [List.map_cons, readEach, hv]
    show readEach read (v :: acc) (vs.map write) = _
    rw [readEach_map vs (v :: acc) hvs, List.reverse_cons, List.append_assoc,
      List.singleton_append]

theorem readsBack_list {vs : List α} (h : ∀ v ∈ vs, s.ReadsBack v) :
    (Shape.list s).ReadsBack vs := by
  intro source f layout
  have each : f ((Shape.list s).toJson vs) = .array (vs.map fun v => f (s.toJson v)) := by
    cases layout with
    | written => rfl
    | sorted =>
      rw [Shape.toJson, Json.canonical_array, List.map_map]
      rfl
  rw [each, Shape.ofJson]
  exact readEach_map vs [] fun v hv => h v hv source f layout

theorem foldMembers_put {source : Source} {f : Json → Json} :
    ∀ (ms acc : List (String × α)), (∀ m ∈ ms, s.ofJson source (f (s.toJson m.2)) = .ok m.2) →
      foldMembers (fun acc k v => (s.ofJson source v).map (Json.put k · acc)) acc
          (ms.map fun m => (m.1, f (s.toJson m.2))) =
        .ok (ms.foldl (fun acc m => Json.put m.1 m.2 acc) acc)
  | [], _, _ => rfl
  | m :: ms, acc, h => by
    obtain ⟨here, later⟩ := List.forall_mem_cons.mp h
    rw [List.map_cons, foldMembers, here]
    exact foldMembers_put ms _ later

/-- An object with its keys in order is read back. -/
theorem readsBack_dict {ms : List (String × α)} (sorted : ms.Pairwise fun m m' => m.1 < m'.1)
    (h : ∀ m ∈ ms, s.ReadsBack m.2) : (Shape.dict s).ReadsBack ms := by
  intro source f layout
  have each : f ((Shape.dict s).toJson ms) = .object (ms.map fun m => (m.1, f (s.toJson m.2))) := by
    cases layout with
    | written => rfl
    | sorted =>
      rw [Shape.toJson, Json.canonical_object, List.map_map]
      exact congrArg Json.object (Json.collect_sorted (List.pairwise_map.mpr sorted))
  rw [each, Shape.ofJson, foldMembers_put ms [] fun m hm => h m hm source f layout]
  exact congrArg Except.ok (Json.collect_sorted sorted)

/-- An integer below the bound is read back. -/
theorem readsBack_count {bound n : Nat} (wanted : String) (below : n < bound) :
    (Shape.count bound wanted).ReadsBack n := by
  have read : (Json.Number.int n).count bound wanted = .ok n := by
    simp [Json.Number.count, below]
  rintro source _ ⟨⟩
  · exact read
  · exact read

theorem ReadsBack.refine {check : α → Except String β} {back : β → α} {v : β}
    (h : s.ReadsBack (back v)) (passes : check (back v) = .ok v) :
    (Shape.refine s check back).ReadsBack v := by
  intro source f layout
  rw [Shape.toJson, Shape.ofJson, h source f layout]
  simp only [passes]
  rfl

end Shape

/-! ### Records -/

namespace Fields

variable {α β σ : Type}

/-- What is hidden is what an absent field means, and all else is read back. -/
def Fits {α σ : Type} : Fields α σ → α → Prop
  | .nil, _ => True
  | .cons _ _ s absence hidden rest, (v, vs) =>
    (if hidden v then absence.value? = some v else s.ReadsBack v) ∧ rest.Fits vs

/-- A field that may be absent is read back if its value, when it has one, is not null. -/
theorem fits_maybe {name : String} {s : Shape α} {rest : Fields β σ} {v : Option α} {vs : β}
    (hv : ∀ a ∈ v, s.ReadsBack a ∧ s.toJson a ≠ .null) (hvs : rest.Fits vs) :
    (maybe name s rest).Fits (v, vs) := by
  cases v with
  | none => exact ⟨rfl, hvs⟩
  | some a => exact ⟨(hv a rfl).1.some (hv a rfl).2, hvs⟩

theorem name_of_mem_toMembers {m : String × Json} :
    ∀ {α σ : Type} (fs : Fields α σ) (v : α), m ∈ fs.toMembers v → m.1 ∈ fs.names
  | _, _, .nil, _, h => absurd h List.not_mem_nil
  | _, _, .cons name aliases s _ hidden rest, (v, vs), h => by
    rw [toMembers] at h
    simp only [names, List.cons_append, List.mem_cons, List.mem_append]
    split at h
    · exact .inr (.inr (name_of_mem_toMembers rest vs h))
    · rcases List.mem_cons.mp h with rfl | h
      · exact .inl rfl
      · exact .inr (.inr (name_of_mem_toMembers rest vs h))

/-- What holds of every value that is shown holds of every value that is written. -/
theorem forall_toMembers_cons {P : Json → Prop} {name : String} {aliases : List String}
    {s : Shape α} {absence : Absence α} {hidden : α → Bool} {rest : Fields β σ} {v : α} {vs : β}
    (here : hidden v = false → P (s.toJson v)) (later : ∀ m ∈ rest.toMembers vs, P m.2) :
    ∀ m ∈ (Fields.cons name aliases s absence hidden rest).toMembers (v, vs), P m.2 := by
  rw [toMembers]
  cases hide : hidden v with
  | true => exact later
  | false => exact List.forall_mem_cons.mpr ⟨here hide, later⟩

/-- The names of what is written are distinct if the names of the fields are. -/
theorem nodup_toMembers : ∀ {α σ : Type} (fs : Fields α σ) (v : α), fs.names.Nodup →
    ((fs.toMembers v).map Prod.fst).Nodup
  | _, _, .nil, _, _ => List.nodup_nil
  | _, _, .cons name aliases s absence hidden rest, (v, vs), distinct => by
    have apart := List.nodup_append.mp distinct
    have hrest := nodup_toMembers rest vs apart.2.1
    rw [toMembers]
    split
    · exact hrest
    · rw [List.map_cons, List.nodup_cons]
      refine ⟨fun h => ?_, hrest⟩
      obtain ⟨m, hm, hname⟩ := List.mem_map.mp h
      exact apart.2.2 name List.mem_cons_self _ (name_of_mem_toMembers rest vs hm) hname.symm

/-- A record has no value under names that are no names of its fields. -/
theorem under_toMembers_of_apart {f : Json → Json} {ns : List String} (fs : Fields α σ) (v : α)
    (apart : ∀ n ∈ ns, n ∉ fs.names) :
    under ns ((fs.toMembers v).map fun m => (m.1, f m.2)) = [] := by
  refine under_eq_nil fun m hm own => ?_
  obtain ⟨m', hm', rfl⟩ := List.mem_map.mp hm
  exact apart m'.1 own (name_of_mem_toMembers fs v hm')

/-- Fields that fit are read back from the values that were written. -/
theorem byName?_of_written (source : Source) {f : Json → Json} (layout : Json.Layout f) :
    ∀ {α σ : Type} (fs : Fields α σ) (v : α), fs.names.Nodup → fs.Fits v →
      (fs.byName? source fun ns => under ns ((fs.toMembers v).map fun m => (m.1, f m.2))) = some v
  | _, _, .nil, _, _, _ => rfl
  | _, _, .cons name aliases s absence hidden rest, (v, vs), distinct, fits => by
    obtain ⟨-, later, apart⟩ := List.nodup_append.mp distinct
    have own_apart : ∀ n ∈ name :: aliases, n ∉ rest.names := fun n own hn => apart n own n hn rfl
    have none_later :
        under (name :: aliases) ((rest.toMembers vs).map fun m => (m.1, f m.2)) = [] :=
      under_toMembers_of_apart rest vs own_apart
    have ih := byName?_of_written source layout rest vs later fits.2
    have absent_or_read := fits.1
    rw [byName?, toMembers]
    by_cases hide : hidden v = true
    · rw [if_pos hide] at absent_or_read ⊢
      rw [none_later, ih, Shape.field?, absent_or_read]
      rfl
    · rw [if_neg hide] at absent_or_read ⊢
      have here : under (name :: aliases) (((name, s.toJson v) :: rest.toMembers vs).map
          fun m => (m.1, f m.2)) = [f (s.toJson v)] := by
        rw [List.map_cons, under_cons_of_mem (m := (name, f (s.toJson v))) List.mem_cons_self,
          none_later]
      have others : (rest.byName? source fun ns => under ns (((name, s.toJson v) ::
          rest.toMembers vs).map fun m => (m.1, f m.2))) = some vs := by
        refine (rest.byName?_congr later fun ns _ within => ?_).trans ih
        have other : name ∉ ns := fun hn => own_apart name List.mem_cons_self (within name hn)
        rw [List.map_cons, under_cons_of_not_mem other]
      rw [here, others, Shape.field?, absent_or_read source f layout]
      rfl

end Fields

/-- **A record is read back from its members in any order.** -/
theorem Shape.ofJson_record {α σ : Type} {title : String} {fs : Fields α σ} {v : α}
    (distinct : fs.names.Nodup) (fits : fs.Fits v) {f : Json → Json} (layout : Json.Layout f)
    {ms : List (String × Json)} (h : ms.Perm ((fs.toMembers v).map fun m => (m.1, f m.2)))
    (source : Source) : (Shape.record title fs).ofJson source (.object ms) = .ok v := by
  rw [← toOption_eq_some, Shape.ofJson_record_byName distinct,
    fs.byName?_congr distinct fun ns _ _ => under_perm h]
  exact fs.byName?_of_written source layout v distinct fits

/-- A record reads back if its fields fit. -/
theorem Shape.readsBack_record {α β σ : Type} {title : String} {fs : Fields α σ}
    {into : α → β} {back : β → α} {v : β} (distinct : fs.names.Nodup) (fits : fs.Fits (back v))
    (same : into (back v) = v) : ((Shape.record title fs).via into back).ReadsBack v := by
  refine Shape.ReadsBack.refine (fun source f layout => ?_) (congrArg Except.ok same)
  cases layout with
  | written => exact Shape.ofJson_record distinct fits .written (by simp) source
  | sorted =>
    rw [Shape.toJson, Json.canonical_object]
    refine Shape.ofJson_record distinct fits .sorted (Json.collect_perm ?_) source
    rw [List.map_map]
    exact fs.nodup_toMembers (back v) distinct

end SessionWatch
