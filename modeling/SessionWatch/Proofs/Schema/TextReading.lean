/-
# A text is read as the value that it holds

There are two readers for the values of a shape, one for texts and one for
values that were parsed before. Of a plain value, as it is written, both make
the same: either reads the value of the shape, or both complain. What they
complain about may differ, since the text is read no further than the first
fault. The induction follows the shape; lists and objects are loops over the
reader of their items and members.

Key definitions: `Agrees`, `Json.Lead`.
Key theorems: `readMembers_agrees`, `Shape.read_bytes`, `Shape.decode_bytes`.
-/
import Mathlib.Tactic.FinCases
import SessionWatch.Proofs.Json.PassOver
import SessionWatch.Proofs.Schema.Members
import SessionWatch.Schema.Tagged

namespace SessionWatch

open Json (Mismatch Fault Read Ends Plain skipSpace skipSpace_cons quotedBytes restOfItems
  restOfMembers escapeBytes isDigit isSpace)

/-! ### What a value begins with -/

namespace Json

/-- The bytes that a number can begin with. -/
def numeric : List UInt8 :=
  [0x2D, 0x30, 0x31, 0x32, 0x33, 0x34, 0x35, 0x36, 0x37, 0x38, 0x39]

theorem mem_numeric_of_isDigit {b : UInt8} (h : isDigit b = true) : b ∈ numeric := by
  have digits : ∀ n < 256, isDigit (UInt8.ofNat n) = true → UInt8.ofNat n ∈ numeric := by
    decide +kernel
  have := digits b.toNat b.toNat_lt
  rw [UInt8.ofNat_toNat] at this
  exact this h

/-- The byte that a value begins with. -/
inductive Lead : UInt8 → Json → Prop where
  | null : Lead 0x6E .null
  | yes : Lead 0x74 (.bool true)
  | no : Lead 0x66 (.bool false)
  | number {b : UInt8} (n : Number) (h : b ∈ numeric) : Lead b (.number n)
  | string (s : String) : Lead 0x22 (.string s)
  | array (vs : List Json) : Lead 0x5B (.array vs)
  | object (ms : List (String × Json)) : Lead 0x7B (.object ms)

theorem Plain.lead {v : Json} {d : Nat} (h : v.Plain d) :
    ∃ b bs, v.bytes = b :: bs ∧ isSpace b = false ∧ Lead b v := by
  cases h with
  | null => exact ⟨_, _, rfl, by decide, .null⟩
  | bool b =>
    cases b
    · exact ⟨_, _, rfl, by decide, .no⟩
    · exact ⟨_, _, rfl, by decide, .yes⟩
  | @int _ z low high =>
    rcases bytes_int_cases z with ⟨-, hbytes⟩ | ⟨-, b, bs, digit, -, hbytes⟩
    · exact ⟨_, _, hbytes, by decide, .number _ (by decide)⟩
    · exact ⟨_, _, hbytes, (beginsScalar_of_isDigit digit).1,
        .number _ (mem_numeric_of_isDigit digit)⟩
  | string s => exact ⟨_, _, rfl, by decide, .string s⟩
  | @array _ vs _ => cases vs <;> exact ⟨_, _, rfl, by decide, .array _⟩
  | @object _ ms _ => cases ms <;> exact ⟨_, _, rfl, by decide, .object _⟩

theorem Lead.ne_of_null {b : UInt8} {v : Json} (h : Lead b v) (other : v ≠ .null) : b ≠ 0x6E := by
  cases h with
  | null => exact absurd rfl other
  | number n hb =>
    rintro rfl
    exact absurd hb (by decide)
  | _ => decide

end Json

/-! ### Two readers -/

/-- A reader of a text comes to what a reader of a value comes to: the same with `rest` left, or
a complaint. -/
def Agrees {α : Type} (rest : Bytes) (read : Read α) : Except Mismatch α → Prop
  | .ok a => read = .ok (a, rest)
  | .error _ => ∃ f, read = .error f

section agrees

variable {α β : Type} {rest rest' : Bytes}

theorem agrees_placed (e : Except Mismatch α) : Agrees rest (placed rest e) e := by
  cases e with
  | ok a => rfl
  | error m => exact ⟨_, rfl⟩

/-- Readers that agree one after the other agree together. -/
theorem Agrees.andThen {read : Read α} {e : Except Mismatch α} {k : α → Bytes → Read β}
    {g : α → Except Mismatch β} : Agrees rest read e →
      (∀ a, Agrees rest' (k a rest) (g a)) →
        Agrees rest' (match read with | .error f => .error f | .ok (a, bs) => k a bs)
          (match e with | .error m => .error m | .ok a => g a) := by
  intro first later
  cases e with
  | error m =>
    obtain ⟨f, hf⟩ := first
    exact ⟨f, by rw [hf]⟩
  | ok a =>
    rw [show read = .ok (a, rest) from first]
    exact later a

theorem Agrees.map {read : Read α} {e : Except Mismatch α} (g : α → β) : Agrees rest read e →
    Agrees rest (match read with | .error f => .error f | .ok (a, bs) => .ok (g a, bs))
      (e.map g) := by
  intro h
  cases e with
  | error m =>
    obtain ⟨f, hf⟩ := h
    exact ⟨f, by rw [hf]⟩
  | ok a =>
    rw [show read = .ok (a, rest) from h]
    rfl

end agrees

/-! ### Values without others within -/

section scalars

variable {α : Type} {v : Json} {d : Nat} {rest : Bytes}

theorem readWanted_bytes (h : v.Plain d) (wanted : String) :
    Agrees rest (readWanted wanted (v.bytes ++ rest)) ((Shape.text wanted).ofJson .parsed v) := by
  obtain ⟨b, bs, hbs, -, lead⟩ := h.lead
  cases lead with
  | string s =>
    show readWanted wanted ((Json.string s).bytes ++ rest) = _
    rw [Json.bytes, quotedBytes, List.cons_append, List.append_assoc, List.singleton_append]
    exact Json.readText_quotedBytes s rest
  | number n hb =>
    rw [hbs]
    fin_cases hb <;> exact ⟨_, rfl⟩
  | _ =>
    rw [hbs]
    exact ⟨_, rfl⟩

theorem readFlag_bytes (h : v.Plain d) (limit depth : Nat) :
    Agrees rest (Shape.flag.read limit depth (v.bytes ++ rest)) (Shape.flag.ofJson .parsed v) := by
  obtain ⟨b, bs, hbs, -, lead⟩ := h.lead
  cases lead with
  | yes | no => rfl
  | number n hb =>
    rw [hbs]
    fin_cases hb <;> exact ⟨_, rfl⟩
  | _ =>
    rw [hbs]
    exact ⟨_, rfl⟩

theorem readCount_bytes (h : v.Plain d) (ends : Ends rest) (bound : Nat) (wanted : String) :
    Agrees rest (readCount bound wanted (v.bytes ++ rest))
      ((Shape.count bound wanted).ofJson .parsed v) := by
  cases h with
  | @int _ z low high =>
    have word := Json.natAbs_lt_of_word low high
    have read : readCount bound wanted ((Json.number (.int z)).bytes ++ rest) =
        placed rest ((Json.Number.int z).count bound wanted) := by
      rcases Json.bytes_int_cases z with ⟨neg, hbytes⟩ | ⟨nonneg, b, bs, digit, digits, hbytes⟩
      · rw [hbytes, List.cons_append, readCount, skipSpace_cons (by decide)]
        simp only [true_or, if_true, ne_eq, not_true, decide_false,
          Json.readNumber_toDigits false word ends, Json.endInteger_of_neg low neg]
      · have hread := Json.readNumber_toDigits true word ends
        have minus : b ≠ 0x2D := Json.ne_of_isDigit digit (by decide)
        rw [digits, List.cons_append] at hread
        rw [hbytes, List.cons_append, readCount,
          skipSpace_cons (Json.beginsScalar_of_isDigit digit).1]
        simp only [digit, or_true, if_true, ne_eq, minus, not_false_eq_true, decide_true,
          if_false, hread, Json.endInteger_of_nonneg nonneg]
    rw [read]
    exact agrees_placed _
  | bool b => cases b <;> exact ⟨_, rfl⟩
  | @array _ vs => cases vs <;> exact ⟨_, rfl⟩
  | @object _ ms => cases ms <;> exact ⟨_, rfl⟩
  | _ => exact ⟨_, rfl⟩

/-- Under a name there is null and nothing else. -/
theorem readUnit_bytes (h : v.Plain d) (rest : Bytes) :
    (v = .null ∧ readUnit (v.bytes ++ rest) = .ok rest) ∨
      (v ≠ .null ∧ ∃ f, readUnit (v.bytes ++ rest) = .error f) := by
  obtain ⟨b, bs, hbs, -, lead⟩ := h.lead
  cases lead with
  | null => exact .inl ⟨rfl, rfl⟩
  | number n hb =>
    rw [hbs]
    fin_cases hb <;> exact .inr ⟨nofun, _, rfl⟩
  | _ =>
    rw [hbs]
    exact .inr ⟨nofun, _, rfl⟩

theorem readKey_quoted (k : String) (bs : Bytes) :
    readKey (quotedBytes k ++ bs) = .ok (k, bs) := by
  rw [quotedBytes, List.cons_append, List.append_assoc, List.singleton_append, readKey,
    skipSpace_cons (b := 0x22) (by decide)]
  simp only [if_true, Json.readText_quotedBytes]

theorem Naming.ofJson_of_ne_null {n : Naming α} {name : String} {payload : Json}
    (h : payload ≠ .null) : ∃ m, n.ofJson .parsed (.object [(name, payload)]) = .error m := by
  unfold Naming.ofJson
  dsimp only
  cases n.read name with
  | error m => exact ⟨m, rfl⟩
  | ok a =>
    cases payload with
    | null => exact absurd rfl h
    | object ms => cases ms <;> exact ⟨_, rfl⟩
    | _ => exact ⟨_, rfl⟩

/-- A name is read as the key of its null, if there is no other key. -/
theorem Naming.readText_object (n : Naming α) {ms : List (String × Json)}
    (plain : ∀ m ∈ ms, m.2.Plain d) : Agrees rest
      (n.readText (d + 1) ((Json.object ms).bytes ++ rest)) (n.ofJson .parsed (.object ms)) := by
  cases ms with
  | nil => exact ⟨_, rfl⟩
  | cons m ms =>
    obtain ⟨name, payload⟩ := m
    have key := readKey_quoted name (0x3A :: (payload.bytes ++ (restOfMembers ms ++ rest)))
    have unit := readUnit_bytes (plain _ List.mem_cons_self) (restOfMembers ms ++ rest)
    have colon (bs : Bytes) : Json.readColon (0x3A :: bs) = .ok bs := rfl
    rw [Json.bytes, List.cons_append, List.append_assoc, List.cons_append, List.append_assoc,
      Naming.readText, skipSpace_cons (b := 0x7B) (by decide)]
    have no_text : (0x7B : UInt8) ≠ 0x22 := by decide
    simp only [if_neg no_text, if_true, Nat.add_one_ne_zero, if_false, key]
    cases named : n.read name with
    | error m =>
      have refused : ∃ m, n.ofJson .parsed (.object ((name, payload) :: ms)) = .error m := by
        cases ms with
        | nil => exact ⟨m, by rw [Naming.ofJson]; simp only [named]⟩
        | cons => exact ⟨_, rfl⟩
      obtain ⟨m', refused⟩ := refused
      rw [refused]
      exact ⟨_, rfl⟩
    | ok a =>
      rcases unit with ⟨rfl, unit⟩ | ⟨other, f, unit⟩
      · cases ms with
        | nil =>
          have value : n.ofJson .parsed (.object [(name, .null)]) = .ok a := by
            rw [Naming.ofJson]
            simp only [named]
          rw [value]
          simp only [placed, colon, unit]
          rfl
        | cons m ms =>
          refine ⟨.before .valueExpected (restOfMembers (m :: ms) ++ rest), ?_⟩
          simp only [placed, colon, unit]
          rfl
      · have refused : ∃ m, n.ofJson .parsed (.object ((name, payload) :: ms)) = .error m := by
          cases ms with
          | nil => exact Naming.ofJson_of_ne_null other
          | cons => exact ⟨_, rfl⟩
        obtain ⟨m', refused⟩ := refused
        rw [refused]
        refine ⟨f, ?_⟩
        simp only [placed, colon, unit]

/-- A name is read alone, or as a key. -/
theorem Naming.readText_bytes (n : Naming α) (h : v.Plain d) :
    Agrees rest (n.readText d (v.bytes ++ rest)) (n.ofJson .parsed v) := by
  cases h with
  | string s =>
    have read : n.readText d ((Json.string s).bytes ++ rest) = placed rest (n.read s) := by
      rw [Json.bytes, quotedBytes, List.cons_append, List.append_assoc, List.singleton_append,
        Naming.readText, skipSpace_cons (b := 0x22) (by decide)]
      simp only [if_true, Json.readText_quotedBytes]
    rw [read]
    exact agrees_placed _
  | object members => exact n.readText_object members
  | @int _ z low high =>
    obtain ⟨b, bs, hbs, -, lead⟩ := (Plain.int (d := d) low high).lead
    cases lead with
    | number _ hb =>
      rw [hbs]
      fin_cases hb <;> exact ⟨_, rfl⟩
  | bool b => cases b <;> exact ⟨_, rfl⟩
  | @array _ vs => cases vs <;> exact ⟨_, rfl⟩
  | _ => exact ⟨_, rfl⟩

end scalars

/-! ### Loops over items and members -/

section loops

variable {α σ : Type} {rest : Bytes} {d : Nat}

/-- What stands for a value, wherever the value ends, is read as the value is. -/
def ReadsAs (item : Bytes → Read α) (read : Json → Except Mismatch α) (v : Json) : Prop :=
  ∀ rest, Ends rest → Agrees rest (item (v.bytes ++ rest)) (read v)

theorem ends_restOfItems (vs : List Json) (rest : Bytes) : Ends (restOfItems vs ++ rest) := by
  cases vs <;> exact Json.ends_cons (by decide)

theorem ends_restOfMembers (ms : List (String × Json)) (rest : Bytes) :
    Ends (restOfMembers ms ++ rest) := by
  cases ms <;> exact Json.ends_cons (by decide)

theorem readItems_agrees (rest : Bytes) {item : Bytes → Read α} {read : Json → Except Mismatch α} :
    ∀ (vs : List Json) (v : Json) (acc : List α) (limit : Nat),
      (∀ u ∈ v :: vs, ReadsAs item read u ∧ u.Plain d) → vs.length < limit →
        Agrees rest (Json.readItems item limit acc (v.bytes ++ (restOfItems vs ++ rest)))
          (readEach read acc (v :: vs))
  | vs, v, acc, limit + 1, h, short => by
    obtain ⟨⟨here, -⟩, later⟩ := List.forall_mem_cons.mp h
    rw [Json.readItems, readEach]
    refine (here _ (ends_restOfItems vs rest)).andThen fun a => ?_
    cases vs with
    | nil => rfl
    | cons u vs =>
      obtain ⟨b, bs, hbs, hspace, hclose⟩ := (later u List.mem_cons_self).2.exists_bytes_cons
      have ih := readItems_agrees rest vs u (a :: acc) limit later (by simpa using short)
      rw [hbs, List.cons_append] at ih
      simp only [restOfItems, List.cons_append, List.append_assoc,
        skipSpace_cons (b := 0x2C) (by decide), hbs, skipSpace_cons hspace]
      split
      · rename_i heq
        cases heq
      · rename_i heq
        exact absurd (List.cons.inj heq).1 hclose
      · exact ih
  | _, _, _, 0, _, short => absurd short (Nat.not_lt_zero _)

/-- The bytes of a list after its opening bracket. -/
def listBody : List Json → Bytes
  | [] => [0x5D]
  | v :: vs => v.bytes ++ restOfItems vs

theorem bytes_array (vs : List Json) : (Json.array vs).bytes = 0x5B :: listBody vs := by
  cases vs <;> rfl

theorem readList_agrees {item : Bytes → Read α} {read : Json → Except Mismatch α} {limit : Nat}
    {vs : List Json} (h : ∀ u ∈ vs, ReadsAs item read u ∧ u.Plain d)
    (short : (Json.array vs).bytes.length ≤ limit) :
    Agrees rest (Json.readList item limit (listBody vs ++ rest)) (readEach read [] vs) := by
  cases vs with
  | nil => rfl
  | cons v vs =>
    have few : vs.length < limit := by
      have := Json.length_lt_restOfItems vs
      rw [Json.bytes, List.length_cons, List.length_append] at short
      omega
    have items := readItems_agrees rest vs v [] limit h few
    obtain ⟨b, bs, hbs, hspace, hclose⟩ := (h v List.mem_cons_self).2.exists_bytes_cons
    rw [listBody, List.append_assoc, hbs, List.cons_append]
    rw [hbs, List.cons_append] at items
    unfold Json.readList
    rw [skipSpace_cons hspace]
    split
    · rename_i heq
      cases heq
    · rename_i heq
      exact absurd (List.cons.inj heq).1 hclose
    · exact items

/-- Put before what stands for the value of a member, a reader of members goes on as a step over
the member does. -/
def StepsAs (member : σ → String → Bytes → Read σ) (step : σ → String → Json → Except Mismatch σ)
    (v : Json) : Prop :=
  ∀ s key rest, Ends rest → Agrees rest (member s key (0x3A :: (v.bytes ++ rest))) (step s key v)

variable {member : σ → String → Bytes → Read σ} {step : σ → String → Json → Except Mismatch σ}

theorem readMembersFrom_agrees (rest : Bytes) : ∀ (ms : List (String × Json)) (k : String)
    (v : Json) (s : σ) (limit : Nat), (∀ m ∈ (k, v) :: ms, StepsAs member step m.2) → ms.length < limit →
      Agrees rest (Json.readMembersFrom member limit s
          (quotedBytes k ++ 0x3A :: (v.bytes ++ (restOfMembers ms ++ rest))))
        (foldMembers step s ((k, v) :: ms))
  | ms, k, v, s, limit + 1, h, short => by
    obtain ⟨here, later⟩ := List.forall_mem_cons.mp h
    rw [quotedBytes, List.cons_append, Json.readMembersFrom, if_pos rfl, List.append_assoc,
      List.singleton_append, Json.readText_quotedBytes, foldMembers]
    refine (here s k _ (ends_restOfMembers ms rest)).andThen fun s' => ?_
    cases ms with
    | nil => rfl
    | cons m ms =>
      obtain ⟨k', v'⟩ := m
      have ih := readMembersFrom_agrees rest ms k' v' s' limit later (by simpa using short)
      simp only [restOfMembers, List.cons_append, List.append_assoc, quotedBytes,
        List.nil_append, skipSpace_cons (b := 0x2C) (by decide),
        skipSpace_cons (b := 0x22) (by decide)] at ih ⊢
      exact ih
  | _, _, _, _, 0, _, short => absurd short (Nat.not_lt_zero _)

/-- The bytes of an object after its opening brace. -/
def objectBody : List (String × Json) → Bytes
  | [] => [0x7D]
  | (k, v) :: ms => quotedBytes k ++ 0x3A :: (v.bytes ++ restOfMembers ms)

theorem bytes_object (ms : List (String × Json)) :
    (Json.object ms).bytes = 0x7B :: objectBody ms := by
  rcases ms with - | ⟨⟨k, v⟩, ms⟩ <;> rfl

/-- **The members of an object are read from the text as they are from the value.** -/
theorem readMembers_agrees (rest : Bytes) {limit : Nat} {ms : List (String × Json)}
    (h : ∀ m ∈ ms, StepsAs member step m.2) (short : (Json.object ms).bytes.length ≤ limit)
    (s : σ) :
    Agrees rest (Json.readMembers member limit s (objectBody ms ++ rest))
      (foldMembers step s ms) := by
  match ms with
  | [] => rfl
  | (k, v) :: ms =>
    have few : ms.length < limit := by
      have := Json.length_lt_restOfMembers ms
      rw [Json.bytes, List.length_cons, List.length_append, List.length_cons, List.length_append]
        at short
      omega
    have members := readMembersFrom_agrees rest ms k v s limit h few
    rw [objectBody, List.append_assoc, List.cons_append, List.append_assoc]
    exact members

end loops

/-! ### The list form of a record -/

section items

variable {d : Nat}

/-- The bytes of a list from its first item on, or from behind another one. -/
def bodyFrom (first : Bool) (vs : List Json) : Bytes :=
  if first then listBody vs else restOfItems vs

theorem bodyFrom_nil (first : Bool) : bodyFrom first [] = [0x5D] := by cases first <;> rfl

theorem nextItem_bodyFrom (rest : Bytes) (first : Bool) : ∀ (vs : List Json),
    (∀ v ∈ vs, v.Plain d) → nextItem first (bodyFrom first vs ++ rest) =
      .ok (vs.head?.map fun v => v.bytes ++ (restOfItems vs.tail ++ rest))
  | [], _ => by cases first <;> rfl
  | v :: vs, h => by
    obtain ⟨b, bs, hbs, hspace, hclose⟩ := (h v List.mem_cons_self).exists_bytes_cons
    cases first with
    | true =>
      show nextItem true (listBody (v :: vs) ++ rest) = _
      rw [listBody, List.append_assoc, hbs, List.cons_append, nextItem, skipSpace_cons hspace]
      simp only [if_neg hclose, if_true, List.head?_cons, Option.map_some, List.tail_cons, hbs,
        List.cons_append]
    | false =>
      show nextItem false (restOfItems (v :: vs) ++ rest) = _
      rw [restOfItems, List.cons_append, List.append_assoc, hbs, List.cons_append, nextItem,
        skipSpace_cons (b := 0x2C) (by decide)]
      have no_close : (0x2C : UInt8) ≠ 0x5D := by decide
      simp only [if_neg no_close, Bool.false_eq_true, if_false, if_true, skipSpace_cons hspace,
        if_neg hclose, List.head?_cons, Option.map_some, List.tail_cons, hbs, List.cons_append]

theorem endOfList_of_ne {b : UInt8} (space : isSpace b = false) (close : b ≠ 0x5D) (bs : Bytes) :
    ∃ f, endOfList (b :: bs) = .error f := by
  unfold endOfList
  rw [skipSpace_cons space]
  split
  · exact ⟨_, rfl⟩
  · rename_i heq
    exact absurd (List.cons.inj heq).1 close
  · split <;> exact ⟨_, rfl⟩
  · exact ⟨_, rfl⟩

/-- A list that has all the items it may have must end. -/
theorem endOfList_bodyFrom (rest : Bytes) (first : Bool) : ∀ (vs : List Json),
    (∀ v ∈ vs, v.Plain d) → (vs = [] ∧ endOfList (bodyFrom first vs ++ rest) = .ok rest) ∨
      (vs ≠ [] ∧ ∃ f, endOfList (bodyFrom first vs ++ rest) = .error f)
  | [], _ => .inl ⟨rfl, by cases first <;> rfl⟩
  | v :: vs, h => by
    refine .inr ⟨List.cons_ne_nil v vs, ?_⟩
    cases first with
    | true =>
      obtain ⟨b, bs, hbs, hspace, hclose⟩ := (h v List.mem_cons_self).exists_bytes_cons
      show ∃ f, endOfList (listBody (v :: vs) ++ rest) = .error f
      rw [listBody, hbs]
      exact endOfList_of_ne hspace hclose _
    | false => exact endOfList_of_ne (by decide) (by decide) _

end items

/-! ### Every shape -/

section shapes

variable {α σ : Type} {limit d : Nat} {v : Json} {s : Shape α}

/-- Null is read as nothing, and everything else as it would be without the option. -/
theorem Shape.readOptional_bytes (h : v.Plain d)
    (within : ReadsAs (s.read limit d) (s.ofJson .parsed) v) :
    ReadsAs ((Shape.optional s).read limit d) ((Shape.optional s).ofJson .parsed) v := by
  intro rest ends
  by_cases null : v = .null
  · subst null
    rw [Shape.read, Shape.ofJson]
    rfl
  · obtain ⟨b, bs, hbs, space, lead⟩ := h.lead
    have other : b ≠ 0x6E := lead.ne_of_null null
    have skipped : (Shape.optional s).read limit d (v.bytes ++ rest) =
        match s.read limit d (v.bytes ++ rest) with
        | .error f => .error f
        | .ok (a, rest) => .ok (some a, rest) := by
      rw [hbs, List.cons_append, Shape.read, skipSpace_cons space]
      split
      · rename_i heq
        exact absurd (List.cons.inj heq).1 other
      · rfl
    rw [skipped, Shape.ofJson]
    · exact (within rest ends).andThen fun a => rfl
    · exact null

theorem Shape.readList_bytes (h : v.Plain d) (short : v.bytes.length ≤ limit)
    (item : ∀ {d : Nat} {u : Json}, u.Plain d → u.bytes.length ≤ limit →
      ReadsAs (s.read limit d) (s.ofJson .parsed) u) :
    ReadsAs ((Shape.list s).read limit d) ((Shape.list s).ofJson .parsed) v := by
  intro rest _
  obtain ⟨b, bs, hbs, -, lead⟩ := h.lead
  cases lead with
  | array vs =>
    cases h with
    | @array d _ items =>
      have each (u : Json) (hu : u ∈ vs) :
          ReadsAs (s.read limit d) (s.ofJson .parsed) u ∧ u.Plain d :=
        ⟨item (items u hu) ((Json.length_bytes_item hu).trans short), items u hu⟩
      rw [bytes_array, List.cons_append]
      exact readList_agrees each short
  | number n hb =>
    rw [hbs]
    fin_cases hb <;> exact ⟨_, rfl⟩
  | _ =>
    rw [hbs]
    exact ⟨_, rfl⟩

theorem Shape.readDict_bytes (h : v.Plain d) (short : v.bytes.length ≤ limit)
    (member : ∀ {d : Nat} {u : Json}, u.Plain d → u.bytes.length ≤ limit →
      ReadsAs (s.read limit d) (s.ofJson .parsed) u) :
    ReadsAs ((Shape.dict s).read limit d) ((Shape.dict s).ofJson .parsed) v := by
  intro rest _
  obtain ⟨b, bs, hbs, -, lead⟩ := h.lead
  cases lead with
  | object ms =>
    cases h with
    | @object d _ members =>
      rw [bytes_object, List.cons_append]
      refine readMembers_agrees rest (fun m hm acc key rest ends => ?_) short []
      have read := member (members m hm) ((Json.length_bytes_member hm).trans short) rest ends
      exact read.map (Json.put key · acc)
  | number n hb =>
    rw [hbs]
    fin_cases hb <;> exact ⟨_, rfl⟩
  | _ =>
    rw [hbs]
    exact ⟨_, rfl⟩

/-- A record is read off an object, or off a list that has as many items as there are fields. -/
theorem Shape.readRecord_bytes {title : String} {fields : Fields α σ} (h : v.Plain d)
    (short : v.bytes.length ≤ limit)
    (member : ∀ {d : Nat} {u : Json}, u.Plain d → u.bytes.length ≤ limit →
      StepsAs (fields.readMember limit d) (fields.fill .parsed) u)
    (inOrder : ∀ {d : Nat} (vs : List Json), (∀ u ∈ vs, u.Plain d ∧ u.bytes.length ≤ limit) →
      ∀ rest, Agrees (bodyFrom (0 + fields.size = 0) (vs.drop fields.size) ++ rest)
        (fields.readItems (lengthWanted title fields.size) limit d 0 (listBody vs ++ rest))
        (fields.ofItems .parsed (lengthWanted title fields.size) 0 vs)) :
    ReadsAs ((Shape.record title fields).read limit d)
      ((Shape.record title fields).ofJson .parsed) v := by
  intro rest _
  obtain ⟨b, bs, hbs, -, lead⟩ := h.lead
  cases lead with
  | object ms =>
    cases h with
    | @object d _ members =>
      have each (m : String × Json) (hm : m ∈ ms) :
          StepsAs (fields.readMember limit d) (fields.fill .parsed) m.2 :=
        member (members m hm) ((Json.length_bytes_member hm).trans short)
      rw [bytes_object, List.cons_append]
      exact (readMembers_agrees rest each short fields.noSlots).andThen fun slots => agrees_placed _
  | array vs =>
    cases h with
    | @array d _ items =>
      have list := inOrder vs
        (fun u hu => ⟨items u hu, (Json.length_bytes_item hu).trans short⟩) rest
      rw [bytes_array, List.cons_append]
      refine list.andThen fun a => ?_
      have plain : ∀ u ∈ vs.drop fields.size, u.Plain d := fun u hu =>
        items u (List.mem_of_mem_drop hu)
      rcases endOfList_bodyFrom rest (0 + fields.size = 0) _ plain with
        ⟨none_left, ended⟩ | ⟨some_left, f, refused⟩
      · have fits : vs.length ≤ fields.size := List.drop_eq_nil_iff.mp none_left
        simp only [ended, checkSurplus, if_pos fits]
        rfl
      · have tooMany : ¬ vs.length ≤ fields.size := fun fits =>
          some_left (List.drop_eq_nil_iff.mpr fits)
        simp only [refused, checkSurplus, if_neg tooMany]
        exact ⟨f, rfl⟩
  | number n hb =>
    rw [hbs]
    fin_cases hb <;> exact ⟨_, rfl⟩
  | _ =>
    rw [hbs]
    exact ⟨_, rfl⟩

mutual

/-- **A text that holds a plain value is read as the value is.** -/
theorem Shape.read_bytes {α : Type} : ∀ (s : Shape α) {d : Nat} {v : Json}, v.Plain d →
    v.bytes.length ≤ limit → ReadsAs (s.read limit d) (s.ofJson .parsed) v
  | .text wanted, d, v, h, _ => fun rest _ => by
    rw [Shape.read]
    exact readWanted_bytes h wanted
  | .flag, d, v, h, _ => fun rest _ => readFlag_bytes h limit d
  | .count bound wanted, d, v, h, _ => fun rest ends => by
    rw [Shape.read]
    exact readCount_bytes h ends bound wanted
  | .oneOf naming, d, v, h, _ => fun rest _ => by
    rw [Shape.read, Shape.ofJson]
    exact naming.readText_bytes h
  | .any, d, v, h, short => fun rest ends => by
    rw [Shape.read, h.readsBack limit short rest ends]
    rfl
  | .optional s, d, v, h, short => Shape.readOptional_bytes h (s.read_bytes h short)
  | .list s, d, v, h, short => Shape.readList_bytes h short s.read_bytes
  | .dict s, d, v, h, short => Shape.readDict_bytes h short s.read_bytes
  | .record title fields, d, v, h, short =>
    Shape.readRecord_bytes h short fields.readMember_bytes
      (fields.readItems_bytes (lengthWanted title fields.size) 0)
  | .refine s check back, d, v, h, short => fun rest ends => by
    have ih := s.read_bytes h short rest ends
    rw [Shape.read, Shape.ofJson]
    exact ih.andThen fun a => agrees_placed _
termination_by structural s => s

/-- A member is read into the slot of its field as it is from the value. -/
theorem Fields.readMember_bytes {α σ : Type} : ∀ (fs : Fields α σ) {d : Nat} {v : Json}, v.Plain d →
    v.bytes.length ≤ limit → StepsAs (fs.readMember limit d) (fs.fill .parsed) v
  | .nil, d, v, h, short => fun slots key rest ends => by
    have colon : Json.readColon (0x3A :: (v.bytes ++ rest)) = .ok (v.bytes ++ rest) := rfl
    unfold Fields.readMember
    simp only [colon, h.skipValue_bytes short ends]
    rfl
  | .cons name aliases s absence hidden more, d, v, h, short =>
    fun (slot, slots) key rest ends => by
    unfold Fields.readMember Fields.fill
    by_cases own : key = name ∨ key ∈ aliases
    · simp only [if_pos own]
      cases slot with
      | some a => exact ⟨_, rfl⟩
      | none => exact (s.read_bytes h short rest ends).andThen fun a => rfl
    · simp only [if_neg own]
      exact (more.readMember_bytes h short slots key rest ends).andThen fun slots => rfl
termination_by structural fs => fs

/-- The items of the list form are read as they are from the value; what is left are the items
that no field is for. -/
theorem Fields.readItems_bytes {α σ : Type} (wanted : String) : ∀ (fs : Fields α σ) {d : Nat}
    (index : Nat) (vs : List Json), (∀ v ∈ vs, v.Plain d ∧ v.bytes.length ≤ limit) →
      ∀ rest, Agrees (bodyFrom (index + fs.size = 0) (vs.drop fs.size) ++ rest)
        (fs.readItems wanted limit d index (bodyFrom (index = 0) vs ++ rest))
        (fs.ofItems .parsed wanted index vs)
  | .nil, d, index, vs, h => fun rest => rfl
  | .cons name aliases s absence hidden more, d, index, vs, h => fun rest => by
    have next := nextItem_bodyFrom rest (index = 0) vs fun v hv => (h v hv).1
    unfold Fields.readItems Fields.ofItems
    rw [next]
    cases vs with
    | nil =>
      cases absence with
      | required | implied => exact ⟨_, rfl⟩
      | defaulted a =>
        have ih := more.readItems_bytes wanted (d := d) (index + 1) [] nofun rest
        simp only [List.drop_nil, bodyFrom_nil] at ih ⊢
        exact ih.andThen fun as => rfl
    | cons v vs =>
      obtain ⟨⟨plain, short⟩, later⟩ := List.forall_mem_cons.mp h
      have ih := s.read_bytes plain short (restOfItems vs ++ rest) (ends_restOfItems vs rest)
      refine ih.andThen fun a => ?_
      have behind : bodyFrom (index + 1 = 0) vs = restOfItems vs := rfl
      have left : bodyFrom (index + 1 + more.size = 0) (vs.drop more.size) =
          bodyFrom (index + (more.size + 1) = 0) (vs.drop more.size) := by
        rw [Nat.add_assoc, Nat.add_comm 1]
      have ih' := more.readItems_bytes wanted (index + 1) vs later rest
      rw [behind, left] at ih'
      exact ih'.andThen fun as => rfl
termination_by structural fs => fs

end

end shapes

/-! ### Whole texts -/

section whole

variable {α : Type} {v : Json} {e : Except Mismatch α}

/-- Of a text that is read to its end there is nothing left. -/
theorem readWhole_agrees {reader : Nat → Bytes → Read α} {text : Bytes}
    (h : Agrees [] (reader text.length text) e) :
    (Json.readWhole reader text).toOption = e.toOption := by
  unfold Json.readWhole
  cases e with
  | error m =>
    obtain ⟨f, hf⟩ := h
    rw [hf]
    rfl
  | ok a =>
    rw [show reader text.length text = .ok (a, []) from h]
    rfl

theorem toOption_mapError {ε ε' : Type} (f : ε → ε') (e : Except ε α) :
    (e.mapError f).toOption = e.toOption := by
  cases e <;> rfl

/-- **What a line is decoded as is what its value stands for.** -/
theorem Shape.decode_compact (s : Shape α) (h : v.Plain Json.depthLimit) :
    (s.decode (Text.utf8 v.compact)).toOption = (s.ofJson .parsed v).toOption := by
  have read := s.read_bytes h (Nat.le_refl _) [] Json.ends_nil
  rw [List.append_nil] at read
  rw [Shape.decode, toOption_mapError, Json.utf8_compact]
  exact readWhole_agrees read

end whole

/-! ### Records that name their kind -/

section tagged

variable {α β : Type} {tag title : String} {naming : Naming α}

/-- The kind that a value under the tag names. -/
def Naming.ofTag (naming : Naming α) (v : Json) : Except Mismatch α :=
  match (Shape.text "variant identifier").ofJson .parsed v with
  | .error m => .error m
  | .ok name => naming.read name

/-- A member of a record that names its kind: the tag, or one that is set aside. -/
def tagStep (tag : String) (naming : Naming α) (seen : Option α × List (String × Json))
    (key : String) (v : Json) : Except Mismatch (Option α × List (String × Json)) :=
  if key = tag then
    match seen.1 with
    | some _ => .error (.duplicateField tag)
    | none => (naming.ofTag v).map fun a => (some a, seen.2)
  else .ok (seen.1, (key, v) :: seen.2)

theorem readTag_bytes {v : Json} {d : Nat} (h : v.Plain d) (rest : Bytes) :
    Agrees rest (readTag naming (v.bytes ++ rest)) (naming.ofTag v) := by
  have text : Agrees rest _ _ := readWanted_bytes h "variant identifier"
  unfold readTag Naming.ofTag
  cases hv : (Shape.text "variant identifier").ofJson .parsed v with
  | error m =>
    rw [hv] at text
    obtain ⟨f, hf⟩ := text
    exact ⟨f, by rw [hf]⟩
  | ok name =>
    rw [hv] at text
    rw [show readWanted "variant identifier" (v.bytes ++ rest) = .ok (name, rest) from text]
    exact agrees_placed _

theorem stepsAs_tagStep {v : Json} {d limit : Nat} (h : v.Plain d)
    (short : v.bytes.length ≤ limit) :
    StepsAs (readTaggedMember tag naming limit d) (tagStep tag naming) v := by
  intro seen key rest ends
  unfold readTaggedMember tagStep
  by_cases own : key = tag
  · rw [if_pos own, if_pos own]
    cases seen.1 with
    | some a => exact ⟨_, rfl⟩
    | none => exact (readTag_bytes h rest).map fun a => (some a, seen.2)
  · rw [if_neg own, if_neg own, Json.readMember_bytes (h.readsBack limit short) seen.2 ends]
    rfl

theorem foldMembers_tagStep (kind : Option α) : ∀ (ms acc : List (String × Json)),
    tag ∉ ms.map Prod.fst →
      foldMembers (tagStep tag naming) (kind, acc) ms = .ok (kind, ms.reverse ++ acc)
  | [], acc, _ => rfl
  | (key, v) :: ms, acc, fresh => by
    rw [List.map_cons, List.mem_cons, not_or] at fresh
    have other : key ≠ tag := Ne.symm fresh.1
    rw [foldMembers, tagStep, if_neg other]
    simp only [foldMembers_tagStep kind ms _ fresh.2, List.reverse_cons, List.append_assoc,
      List.singleton_append]

/-- What the members of an object come to. -/
def ofTagged (tag : String) (naming : Naming α) (ms : List (String × Json)) :
    Except Mismatch (α × Json) :=
  match foldMembers (tagStep tag naming) (none, []) ms with
  | .error m => .error m
  | .ok (none, _) => .error (.missingField tag)
  | .ok (some a, members) => .ok (a, .object members.reverse)

theorem ofTagged_of_first {name : String} {a : α} {ms : List (String × Json)}
    (named : naming.read name = .ok a) (fresh : tag ∉ ms.map Prod.fst) :
    ofTagged tag naming ((tag, .string name) :: ms) = .ok (a, .object ms) := by
  have first : tagStep tag naming (none, []) tag (.string name) = .ok (some a, []) := by
    rw [tagStep, if_pos rfl]
    show (naming.read name).map _ = _
    rw [named]
    rfl
  rw [ofTagged, foldMembers, first]
  simp only [foldMembers_tagStep (some a) ms [] fresh, List.append_nil, List.reverse_reverse]

theorem ofTagged_of_not_mem {ms : List (String × Json)} (fresh : tag ∉ ms.map Prod.fst) :
    ofTagged tag naming ms = .error (.missingField tag) := by
  rw [ofTagged, foldMembers_tagStep none ms [] fresh]

theorem readTagged_bytes {ms : List (String × Json)} {d limit : Nat}
    (h : ∀ m ∈ ms, m.2.Plain d) (short : (Json.object ms).bytes.length ≤ limit) :
    Agrees [] (readTagged tag title naming limit (d + 1) (Json.object ms).bytes)
      (ofTagged tag naming ms) := by
  have each (m : String × Json) (hm : m ∈ ms) :
      StepsAs (readTaggedMember tag naming limit d) (tagStep tag naming) m.2 :=
    stepsAs_tagStep (h m hm) ((Json.length_bytes_member hm).trans short)
  have members := readMembers_agrees [] each short (none, [])
  rw [List.append_nil] at members
  rw [bytes_object, ofTagged]
  unfold readTagged
  rw [skipSpace_cons (b := 0x7B) (by decide)]
  cases hs : foldMembers (tagStep tag naming) (none, []) ms with
  | error m =>
    rw [hs] at members
    obtain ⟨f, hf⟩ := members
    exact ⟨f, by simp only [hf]⟩
  | ok seen =>
    rw [hs] at members
    have read : Json.readMembers (readTaggedMember tag naming limit d) limit (none, [])
        (objectBody ms) = .ok (seen, []) := members
    simp only [read]
    obtain ⟨kind, others⟩ := seen
    cases kind with
    | none => exact ⟨_, rfl⟩
    | some a => rfl

variable {content : α → Json → Except Mismatch β} {ms : List (String × Json)}

theorem readWhole_tagged (h : ∀ m ∈ ms, m.2.Plain (Json.depthLimit - 1)) :
    (Json.readWhole (fun limit => readTagged tag title naming limit Json.depthLimit)
      (Text.utf8 (Json.object ms).compact)).toOption = (ofTagged tag naming ms).toOption := by
  rw [Json.utf8_compact]
  exact readWhole_agrees (readTagged_bytes h (Nat.le_refl _))

/-- **A record that names its kind first is decoded by its kind.** -/
theorem decodeTagged_compact {name : String} {a : α} (named : naming.read name = .ok a)
    (fresh : tag ∉ ms.map Prod.fst) (h : ∀ m ∈ ms, m.2.Plain (Json.depthLimit - 1)) :
    (decodeTagged tag title naming content
      (Text.utf8 (Json.object ((tag, .string name) :: ms)).compact)).toOption =
        (content a (.object ms)).toOption := by
  have plain : ∀ m ∈ (tag, Json.string name) :: ms, m.2.Plain (Json.depthLimit - 1) :=
    List.forall_mem_cons.mpr ⟨.string name, h⟩
  have whole : (Json.readWhole (fun limit => readTagged tag title naming limit Json.depthLimit)
      (Text.utf8 (Json.object ((tag, .string name) :: ms)).compact)).toOption =
        some (a, .object ms) := by
    rw [readWhole_tagged plain, ofTagged_of_first named fresh]
    rfl
  unfold decodeTagged
  rw [toOption_eq_some.mp whole]
  exact toOption_mapError _ _

/-- A record without the tag is refused. -/
theorem decodeTagged_untagged (fresh : tag ∉ ms.map Prod.fst)
    (h : ∀ m ∈ ms, m.2.Plain (Json.depthLimit - 1)) :
    ∃ why, decodeTagged tag title naming content (Text.utf8 (Json.object ms).compact) =
      .error why := by
  have whole : (Json.readWhole (fun limit => readTagged tag title naming limit Json.depthLimit)
      (Text.utf8 (Json.object ms).compact)).toOption = none := by
    rw [readWhole_tagged h, ofTagged_of_not_mem fresh]
    rfl
  unfold decodeTagged
  cases hw : Json.readWhole (fun limit => readTagged tag title naming limit Json.depthLimit)
      (Text.utf8 (Json.object ms).compact) with
  | error f => exact ⟨_, rfl⟩
  | ok p =>
    rw [hw] at whole
    cases whole

end tagged

end SessionWatch
