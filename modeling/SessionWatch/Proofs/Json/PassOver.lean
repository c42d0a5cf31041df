/-
# What is written is passed over

A value that nobody asked for is passed over and not built. Put before the
bytes of a plain value, the passage leaves what follows, just as the reader
does. A text that is read is passed over, so texts need no argument of their
own. For lists and objects the induction is on the value, under any brackets
that are open: behind the value the passage goes on as it would behind a
closing bracket (`resume`), and no more steps are spent than there are bytes.

Key definitions: `Json.resume`, `Json.PassedOver`.
Key theorems: `Json.skipTextFrom_of_read`, `Json.Plain.passedOver`,
`Json.Plain.skipValue_bytes`.
-/
import SessionWatch.Json.Skip
import SessionWatch.Proofs.Json.ReadBack

namespace SessionWatch.Json

open Text

/-! ### Texts -/

/-- Where the passage over a text stands when a reader of it stands here. -/
def TextState.skipping : TextState → SkipState
  | .plain | .backslash _ => .plain
  | .escape | .letter _ => .escape
  | .digits _ count value => .digits count value.isSome

theorem isSome_nextDigit (value : Option Nat) (b : UInt8) :
    (value.bind fun v => (hexDigit? b).map (v * 16 + ·)).isSome =
      (value.isSome && (hexDigit? b).isSome) := by
  cases value with
  | none => rfl
  | some v => cases hexDigit? b <;> rfl

/-- Digits that stand for something are digits, and the passage is between characters then. -/
theorem skipping_of_endDigits {lead value : Option Nat} {state : TextState} {bytes : Bytes}
    (h : endDigits lead value = .ok (state, bytes)) :
    value.isSome = true ∧ state.skipping = .plain := by
  unfold endDigits at h
  split at h
  · cases h
  · split at h
    · cases h
    · split at h <;> cases h <;> exact ⟨rfl, rfl⟩
  · split at h
    · cases h
      exact ⟨rfl, rfl⟩
    · cases h

/-- **A text that is read is passed over.** -/
theorem skipTextFrom_of_read : ∀ (bs : Bytes) {acc : Bytes} {state : TextState} {s : String}
    {rest : Bytes}, readTextFrom acc state bs = .ok (s, rest) →
      skipTextFrom state.skipping bs = .ok rest
  | [], _, state, _, _, h => by cases state <;> cases h
  | b :: bs, acc, state, s, rest, h => by
    have ih {acc : Bytes} {state : TextState} : readTextFrom acc state bs = .ok (s, rest) →
        skipTextFrom state.skipping bs = .ok rest := skipTextFrom_of_read bs
    cases state with
    | plain =>
      rw [readTextFrom] at h
      rw [TextState.skipping, skipTextFrom]
      by_cases quote : b = 0x22
      · rw [if_pos quote] at h ⊢
        split at h
        · cases h
          rfl
        · cases h
      rw [if_neg quote] at h ⊢
      by_cases slash : b = 0x5C
      · rw [if_pos slash] at h ⊢
        exact ih h
      rw [if_neg slash] at h ⊢
      by_cases control : b < 0x20
      · rw [if_pos control] at h
        cases h
      · rw [if_neg control] at h ⊢
        exact ih h
    | escape =>
      rw [readTextFrom] at h
      rw [TextState.skipping, skipTextFrom]
      by_cases digits : b = 0x75
      · rw [if_pos digits] at h ⊢
        exact ih h
      rw [if_neg digits] at h ⊢
      cases short : shortEscape? b with
      | none =>
        rw [short] at h
        cases h
      | some c =>
        rw [short] at h
        exact ih h
    | digits lead count value =>
      rw [readTextFrom] at h
      rw [TextState.skipping, skipTextFrom]
      simp only [← isSome_nextDigit]
      generalize (value.bind fun v => (hexDigit? b).map (v * 16 + ·)) = value at h ⊢
      by_cases more : count < 3
      · rw [if_pos more] at h ⊢
        exact ih h
      rw [if_neg more] at h ⊢
      cases ended : endDigits lead value with
      | error m =>
        rw [ended] at h
        cases h
      | ok p =>
        obtain ⟨state, bytes⟩ := p
        obtain ⟨some_value, plain⟩ := skipping_of_endDigits ended
        rw [ended] at h
        rw [if_pos some_value, ← plain]
        exact ih h
    | backslash lead =>
      rw [readTextFrom] at h
      split at h
      · rename_i slash
        subst slash
        exact ih h
      · cases h
    | letter lead =>
      rw [readTextFrom] at h
      split at h
      · rename_i digits
        subst digits
        exact ih h
      · cases h

/-- A text in quotes is passed over from behind the first one. -/
theorem skipText_quoted (s : String) (rest : Bytes) :
    skipText (s.toList.flatMap escapeBytes ++ 0x22 :: rest) = .ok rest :=
  skipTextFrom_of_read _ (readText_quotedBytes s rest)

/-! ### Numbers -/

section number

variable {rest : Bytes}

theorem dropDigits_encode (ends : Ends rest) : ∀ {cs : List Char}, (∀ c ∈ cs, c.isDigit = true) →
    dropDigits (encode cs ++ rest) = rest
  | [], _ => by
    rw [encode_nil, List.nil_append]
    cases rest with
    | nil => rfl
    | cons b bs => rw [dropDigits, List.dropWhile_cons_of_neg (by simp [(ends b rfl).1])]
  | c :: cs, digits => by
    obtain ⟨hc, hcs⟩ := List.forall_mem_cons.mp digits
    obtain ⟨bytes, digit, -⟩ := digit_of_isDigit hc
    rw [encode_cons, bytes, List.singleton_append, List.cons_append, dropDigits,
      List.dropWhile_cons_of_pos digit]
    exact dropDigits_encode ends hcs

theorem Ends.skipFraction (ends : Ends rest) : skipFraction rest = .ok rest := by
  have exponent : skipExponent? rest = .ok rest := by
    unfold skipExponent?
    split
    · exact absurd rfl (ends _ rfl).2.2.1
    · exact absurd rfl (ends _ rfl).2.2.2
    · rfl
  unfold Json.skipFraction
  split
  · exact absurd rfl (ends _ rfl).2.1
  · exact exponent

/-- The digits of a number are passed over. -/
theorem skipNumber_toDigits (ends : Ends rest) (n : Nat) :
    skipNumber (encode (Nat.toDigits 10 n) ++ rest) = .ok rest := by
  by_cases zero : n = 0
  · subst zero
    show skipNumber (0x30 :: rest) = _
    rw [skipNumber, if_pos rfl, ends.digitNext]
    exact ends.skipFraction
  · obtain ⟨c, cs, hcs, hc⟩ := exists_toDigits_cons n (Nat.pos_of_ne_zero zero)
    have digits : ∀ d ∈ c :: cs, d.isDigit = true := fun d hd =>
      Nat.isDigit_of_mem_toDigits (by decide) (by decide) (hcs ▸ hd)
    obtain ⟨first, later⟩ := List.forall_mem_cons.mp digits
    obtain ⟨bytes, digit, -⟩ := digit_of_isDigit first
    have not_zero : UInt8.ofNat c.toNat ≠ 0x30 := fun h => by
      have same := toNat_of_isDigit first
      rw [h] at same
      exact hc (Char.toNat_inj.mp same.symm)
    rw [hcs, encode_cons, bytes, List.singleton_append, List.cons_append, skipNumber,
      if_neg not_zero, if_pos digit, dropDigits_encode ends later]
    exact ends.skipFraction

end number

/-! ### Values under open brackets -/

/-- How the passage goes on behind a value, under the brackets that are open. -/
def resume (limit : Nat) (opened : List Bracket) (bs : Bytes) : Except Fault Bytes :=
  match skipToNext opened true bs with
  | .error f => .error f
  | .ok (none, rest) => .ok rest
  | .ok (some opened, rest) => skipValues limit opened rest

/-- The passage gets behind the value, under any open brackets, in no more steps than the value
has bytes. -/
def PassedOver (v : Json) : Prop :=
  ∃ k ≤ v.bytes.length, ∀ n opened rest, Ends rest →
    skipValues (n + k) opened (v.bytes ++ rest) = resume n opened rest

variable {rest : Bytes} {d : Nat} {v : Json}

theorem passedOver_scalar {b : UInt8} {bs : Bytes} (hbs : v.bytes = b :: bs) (hb : BeginsScalar b)
    (passes : ∀ rest, Ends rest → skipScalar b (bs ++ rest) = .ok rest) : PassedOver v := by
  refine ⟨1, by simp [hbs], fun n opened rest ends => ?_⟩
  obtain ⟨space, list, object, -⟩ := hb
  rw [hbs, List.cons_append, skipValues]
  simp only [skipSpace_cons space, if_neg list, if_neg object, passes rest ends]
  rfl

theorem skipScalar_digit {b : UInt8} (h : isDigit b = true) (bs : Bytes) :
    skipScalar b bs = skipNumber (b :: bs) := by
  rw [skipScalar, if_neg (ne_of_isDigit h (by decide)), if_neg (ne_of_isDigit h (by decide)),
    if_neg (ne_of_isDigit h (by decide)), if_neg (ne_of_isDigit h (by decide)),
    if_neg (ne_of_isDigit h (by decide)), if_pos h]

theorem passedOver_int (z : Int) : PassedOver (.number (.int z)) := by
  rcases bytes_int_cases z with ⟨-, hbytes⟩ | ⟨-, b, bs, digit, digits, hbytes⟩
  · exact passedOver_scalar hbytes (by unfold BeginsScalar; decide) fun rest ends =>
      skipNumber_toDigits ends _
  · refine passedOver_scalar hbytes (beginsScalar_of_isDigit digit) fun rest ends => ?_
    rw [skipScalar_digit digit, ← List.cons_append, ← digits]
    exact skipNumber_toDigits ends _

/-- The rest of a list is passed over, up to its closing bracket and beyond. -/
theorem resume_restOfItems : ∀ {vs : List Json}, (∀ v ∈ vs, PassedOver v) →
    ∃ k ≤ (restOfItems vs).length, ∀ n opened rest,
      resume (n + k) (.list :: opened) (restOfItems vs ++ rest) = resume n opened rest
  | [], _ => ⟨0, Nat.zero_le _, fun _ _ _ => rfl⟩
  | v :: vs, h => by
    obtain ⟨⟨k, short, passes⟩, hvs⟩ := List.forall_mem_cons.mp h
    obtain ⟨k', short', later⟩ := resume_restOfItems hvs
    refine ⟨k' + k, ?_, fun n opened rest => ?_⟩
    · rw [restOfItems, List.length_cons, List.length_append]
      omega
    · have ends : Ends (restOfItems vs ++ rest) := by
        cases vs <;> exact ends_cons (by decide)
      rw [← later n opened rest, ← passes _ _ _ ends, restOfItems, List.cons_append,
        List.append_assoc, Nat.add_assoc]
      rfl

/-- The key of a member and its colon are passed over. -/
theorem skipKey_quoted (k : String) (rest : Bytes) :
    skipKey (quotedBytes k ++ 0x3A :: rest) = .ok rest := by
  rw [quotedBytes, List.cons_append, List.append_assoc, List.singleton_append, skipKey,
    skipSpace_cons (b := 0x22) (by decide)]
  simp only [skipText_quoted]
  rfl

/-- Behind a comma in an object the passage goes on with the value of the next member. -/
theorem skipToNext_member (opened : List Bracket) (k : String) (rest : Bytes) :
    skipToNext (.object :: opened) true (0x2C :: (quotedBytes k ++ 0x3A :: rest)) =
      .ok (some (.object :: opened), rest) := by
  have key := skipKey_quoted k rest
  unfold skipToNext
  simp only [skipSpace_cons (b := 0x2C) (by decide), and_self, if_true, key]

/-- The rest of an object is passed over, up to its closing brace and beyond. -/
theorem resume_restOfMembers : ∀ {ms : List (String × Json)}, (∀ m ∈ ms, PassedOver m.2) →
    ∃ k ≤ (restOfMembers ms).length, ∀ n opened rest,
      resume (n + k) (.object :: opened) (restOfMembers ms ++ rest) = resume n opened rest
  | [], _ => ⟨0, Nat.zero_le _, fun _ _ _ => rfl⟩
  | (key, v) :: ms, h => by
    obtain ⟨hv, hms⟩ := List.forall_mem_cons.mp h
    obtain ⟨k, short, passes⟩ : PassedOver v := hv
    obtain ⟨k', short', later⟩ := resume_restOfMembers hms
    refine ⟨k' + k, ?_, fun n opened rest => ?_⟩
    · rw [restOfMembers, List.length_cons, List.length_append, List.length_cons,
        List.length_append]
      omega
    · have ends : Ends (restOfMembers ms ++ rest) := by
        cases ms <;> exact ends_cons (by decide)
      rw [← later n opened rest, ← passes _ _ _ ends, restOfMembers, List.cons_append,
        List.append_assoc, List.cons_append, List.append_assoc, Nat.add_assoc, resume,
        skipToNext_member]

/-- A list is passed over if its items are. -/
theorem passedOver_array {vs : List Json} (h : ∀ v ∈ vs, PassedOver v ∧ v.Plain d) :
    PassedOver (.array vs) := by
  cases vs with
  | nil => exact ⟨1, by decide, fun _ _ _ _ => rfl⟩
  | cons v vs =>
    obtain ⟨⟨k, short, passes⟩, plain⟩ := h v List.mem_cons_self
    obtain ⟨k', short', later⟩ := resume_restOfItems fun u hu => (h u (List.mem_cons_of_mem _ hu)).1
    obtain ⟨b, bs, hbs, space, close⟩ := plain.exists_bytes_cons
    refine ⟨k' + k + 1, ?_, fun n opened rest _ => ?_⟩
    · rw [bytes, List.length_cons, List.length_append]
      omega
    · have ends : Ends (restOfItems vs ++ rest) := by
        cases vs <;> exact ends_cons (by decide)
      rw [← later n opened rest, ← passes _ _ _ ends, bytes, List.cons_append, List.append_assoc,
        ← Nat.add_assoc, ← Nat.add_assoc, skipValues, skipSpace_cons (b := 0x5B) (by decide)]
      simp only [if_pos, hbs, List.cons_append, skipToNext, skipSpace_cons space, if_neg close,
        Bool.false_eq_true, false_and, if_false]

/-- An object is passed over if the values of its members are. -/
theorem passedOver_object {ms : List (String × Json)} (h : ∀ m ∈ ms, PassedOver m.2) :
    PassedOver (.object ms) := by
  cases ms with
  | nil => exact ⟨1, by decide, fun _ _ _ _ => rfl⟩
  | cons m ms =>
    obtain ⟨key, v⟩ := m
    obtain ⟨k, short, passes⟩ : PassedOver v := h (key, v) List.mem_cons_self
    obtain ⟨k', short', later⟩ := resume_restOfMembers fun u hu => h u (List.mem_cons_of_mem _ hu)
    refine ⟨k' + k + 1, ?_, fun n opened rest _ => ?_⟩
    · rw [bytes, List.length_cons, List.length_append, List.length_cons, List.length_append]
      omega
    · have ends : Ends (restOfMembers ms ++ rest) := by
        cases ms <;> exact ends_cons (by decide)
      have quoted := skipKey_quoted key (v.bytes ++ (restOfMembers ms ++ rest))
      rw [← later n opened rest, ← passes _ _ _ ends, bytes, List.cons_append, List.append_assoc,
        List.cons_append, List.append_assoc, ← Nat.add_assoc, ← Nat.add_assoc, skipValues,
        skipSpace_cons (b := 0x7B) (by decide)]
      rw [quotedBytes, List.cons_append] at quoted ⊢
      have no_list : (0x7B : UInt8) ≠ 0x5B := by decide
      have no_close : (0x22 : UInt8) ≠ 0x7D := by decide
      simp only [if_neg no_list, if_pos, skipToNext, skipSpace_cons (b := 0x22) (by decide),
        if_neg no_close, Bool.false_eq_true, false_and, if_false, quoted]

/-- **A plain value is passed over.** -/
theorem Plain.passedOver (h : v.Plain d) : PassedOver v := by
  induction h with
  | null =>
    exact passedOver_scalar (b := 0x6E) rfl (by unfold BeginsScalar; decide) fun _ _ => rfl
  | bool b =>
    cases b
    · exact passedOver_scalar (b := 0x66) rfl (by unfold BeginsScalar; decide) fun _ _ => rfl
    · exact passedOver_scalar (b := 0x74) rfl (by unfold BeginsScalar; decide) fun _ _ => rfl
  | @int _ z _ _ => exact passedOver_int z
  | string s =>
    refine passedOver_scalar (b := 0x22) rfl (by unfold BeginsScalar; decide) fun rest _ => ?_
    rw [List.append_assoc, List.singleton_append]
    exact skipText_quoted s rest
  | array items ih => exact passedOver_array fun v hv => ⟨ih v hv, items v hv⟩
  | object members ih => exact passedOver_object ih

/-- What follows a plain value is what is left when the value is passed over. -/
theorem Plain.skipValue_bytes (h : v.Plain d) {limit : Nat} (short : v.bytes.length ≤ limit)
    (ends : Ends rest) : skipValue limit (v.bytes ++ rest) = .ok rest := by
  obtain ⟨k, few, passes⟩ := h.passedOver
  have spent : limit + 1 = (limit + 1 - k) + k := by omega
  rw [skipValue, spent, passes _ _ _ ends]
  rfl

end SessionWatch.Json
