/-
# What is written is read back

The reader of values, put before the bytes of a plain value, reads that value
and leaves what follows. Texts may hold any characters: an escape is read as
the character it stands for, and every other character as itself. The value
may stand within lists and objects, so that nothing is said of what follows
but that it does not go on with a number.

Key definitions: `Json.Ends`, `Json.ReadsBack`.
Key theorems: `Json.readText_quotedBytes`, `Json.readNumber_toDigits`,
`Json.Plain.readsBack`, `Json.Plain.parse_compact`.
-/
import SessionWatch.Json.Reader
import SessionWatch.Proofs.Json.Bytes

namespace SessionWatch.Json

open Text

/-! ### Texts -/

section text

variable {acc bs : Bytes}

theorem readTextFrom_plain : ∀ {xs : Bytes}, (∀ b ∈ xs, 32 ≤ b.toNat ∧ b ≠ 0x22 ∧ b ≠ 0x5C) →
    ∀ acc : Bytes,
      readTextFrom acc .plain (xs ++ bs) = readTextFrom (xs.reverse ++ acc) .plain bs
  | [], _, acc => rfl
  | x :: xs, h, acc => by
    obtain ⟨⟨hlow, hquote, hslash⟩, h⟩ := List.forall_mem_cons.mp h
    have hctl : ¬ x < 0x20 := fun hx => by
      have := UInt8.lt_iff_toNat_lt.mp hx
      exact absurd hlow (Nat.not_le_of_lt this)
    rw [List.cons_append, readTextFrom, if_neg hquote, if_neg hslash, if_neg hctl,
      readTextFrom_plain h, List.reverse_cons, List.append_assoc, List.singleton_append]

theorem hexDigit?_digitChar :
    ∀ n < 16, hexDigit? (UInt8.ofNat (Nat.digitChar n).toNat) = some n := by
  decide

theorem digitChar_lt : ∀ n < 16, (Nat.digitChar n).toNat < 128 := by decide

/-- Four digits that give the number of a character are read as the character. -/
theorem readTextFrom_digits {b₁ b₂ : UInt8} {c : Char} {n m : Nat} (h₁ : hexDigit? b₁ = some n)
    (h₂ : hexDigit? b₂ = some m) (hc : n * 16 + m = c.toNat) (hlow : c.toNat < 128) :
    readTextFrom acc .plain (0x5C :: 0x75 :: 0x30 :: 0x30 :: b₁ :: b₂ :: bs) =
      readTextFrom ((String.utf8EncodeChar c).reverse ++ acc) .plain bs := by
  have zero : hexDigit? 0x30 = some 0 := by decide
  have value : Char.ofNat c.toNat = c := Char.ofNat_toNat c
  have noTrail : ¬ (0xDC00 ≤ c.toNat ∧ c.toNat ≤ 0xDFFF) := by omega
  have noLead : ¬ (0xD800 ≤ c.toNat ∧ c.toNat ≤ 0xDBFF) := by omega
  simp [readTextFrom, zero, h₁, h₂, endDigits, hc, noTrail, noLead, value]

/-- A control character is read back from the two digits of its number. -/
theorem readTextFrom_control {c : Char} (h : c.toNat < 32) :
    readTextFrom acc .plain
      (encode ['\\', 'u', '0', '0', if c.toNat < 0x10 then '0' else '1',
        Nat.digitChar (c.toNat % 16)] ++ bs) =
      readTextFrom ((String.utf8EncodeChar c).reverse ++ acc) .plain bs := by
  have hmod : c.toNat % 16 < 16 := Nat.mod_lt _ (by decide)
  have first : (if c.toNat < 0x10 then '0' else '1') = Nat.digitChar (c.toNat / 16) := by
    split
    · rw [Nat.div_eq_of_lt ‹_›]
      rfl
    · rw [show c.toNat / 16 = 1 by omega]
      rfl
  have hdiv : c.toNat / 16 < 16 := by omega
  rw [first]
  simp only [encode_cons, encode_nil, utf8EncodeChar_of_lt (digitChar_lt _ hmod),
    utf8EncodeChar_of_lt (digitChar_lt _ hdiv)]
  exact readTextFrom_digits (hexDigit?_digitChar _ hdiv) (hexDigit?_digitChar _ hmod) (by omega)
    (by omega)

/-- A character that needs no escape is read byte by byte. -/
theorem readTextFrom_char {c : Char} (hctl : ¬ c.toNat < 32) (hquote : c ≠ '"')
    (hslash : c ≠ '\\') :
    readTextFrom acc .plain (String.utf8EncodeChar c ++ bs) =
      readTextFrom ((String.utf8EncodeChar c).reverse ++ acc) .plain bs := by
  refine readTextFrom_plain (fun b hb => ?_) acc
  by_cases hlow : c.toNat < 128
  · rw [utf8EncodeChar_of_lt hlow, List.mem_singleton] at hb
    have htoNat : b.toNat = c.toNat := by
      rw [hb, UInt8.toNat_ofNat']
      omega
    refine ⟨by omega, fun h => hquote ?_, fun h => hslash ?_⟩
    · exact Char.toNat_inj.mp (by rw [← htoNat, h]; rfl)
    · exact Char.toNat_inj.mp (by rw [← htoNat, h]; rfl)
  · have hbyte := le_of_mem_utf8EncodeChar (Nat.le_of_not_lt hlow) hb
    refine ⟨by omega, fun h => ?_, fun h => ?_⟩
    · rw [h] at hbyte
      exact absurd hbyte (by decide)
    · rw [h] at hbyte
      exact absurd hbyte (by decide)

/-- What stands for a character is read as the character. -/
theorem readTextFrom_escapeBytes (c : Char) (acc : Bytes) :
    readTextFrom acc .plain (escapeBytes c ++ bs) =
      readTextFrom ((String.utf8EncodeChar c).reverse ++ acc) .plain bs := by
  rw [escapeBytes, escapeChar]
  split
  · rename_i mark hmark
    have hmem := mem_shortEscapes hmark
    simp only [shortEscapes, List.mem_cons, Prod.mk.injEq, List.not_mem_nil, or_false] at hmem
    rcases hmem with ⟨rfl, rfl⟩ | ⟨rfl, rfl⟩ | ⟨rfl, rfl⟩ | ⟨rfl, rfl⟩ | ⟨rfl, rfl⟩ | ⟨rfl, rfl⟩ |
      ⟨rfl, rfl⟩ <;> rfl
  · rename_i hmark
    split
    · rename_i hctl
      exact readTextFrom_control hctl
    · rename_i hctl
      rw [encode_cons, encode_nil, List.append_nil]
      refine readTextFrom_char hctl ?_ ?_
      · rintro rfl
        cases hmark
      · rintro rfl
        cases hmark

theorem readTextFrom_flatMap : ∀ (cs : List Char) (acc : Bytes),
    readTextFrom acc .plain (cs.flatMap escapeBytes ++ bs) =
      readTextFrom ((encode cs).reverse ++ acc) .plain bs
  | [], acc => rfl
  | c :: cs, acc => by
    rw [List.flatMap_cons, List.append_assoc, readTextFrom_escapeBytes, readTextFrom_flatMap cs,
      encode_cons, List.reverse_append, List.append_assoc]

/-- **A text is read back from between its quotes.** -/
theorem readText_quotedBytes (s : String) (rest : Bytes) :
    readText (s.toList.flatMap escapeBytes ++ 0x22 :: rest) = .ok (s, rest) := by
  rw [readText, readTextFrom_flatMap, readTextFrom, if_pos rfl, List.append_nil,
    List.reverse_reverse, ← utf8_eq_encode, ofUtf8?_utf8]

end text

/-! ### Numbers -/

/-- What follows does not go on with a number. -/
def Ends (rest : Bytes) : Prop :=
  ∀ b ∈ rest.head?, isDigit b = false ∧ b ≠ 0x2E ∧ b ≠ 0x65 ∧ b ≠ 0x45

theorem ends_nil : Ends [] := fun _ h => by cases h

theorem ends_cons {b : UInt8} {bs : Bytes}
    (h : isDigit b = false ∧ b ≠ 0x2E ∧ b ≠ 0x65 ∧ b ≠ 0x45) : Ends (b :: bs) := by
  intro b' hb
  rwa [← Option.some.inj hb]

section number

variable {rest : Bytes} {positive : Bool}

theorem Ends.digitNext (h : Ends rest) : digitNext rest = false := by
  cases rest with
  | nil => rfl
  | cons b bs => exact (h b rfl).1

theorem Ends.readFraction (h : Ends rest) (n : Nat) :
    readFraction positive n rest = .ok (endInteger positive n, rest) := by
  unfold Json.readFraction
  split
  · exact absurd rfl (h _ rfl).2.1
  · exact absurd rfl (h _ rfl).2.2.1
  · exact absurd rfl (h _ rfl).2.2.2
  · rfl

theorem le_ofDigitChars : ∀ (cs : List Char) (n : Nat), n ≤ Nat.ofDigitChars 10 cs n
  | [], n => Nat.le_refl n
  | c :: cs, n => by
    rw [Nat.ofDigitChars_cons]
    exact Nat.le_trans (by omega) (le_ofDigitChars cs _)

theorem toNat_of_isDigit {c : Char} (h : c.isDigit = true) :
    (UInt8.ofNat c.toNat).toNat = c.toNat := by
  have hc : 48 ≤ c.toNat ∧ c.toNat ≤ 57 := Char.isDigit_iff_toNat.mp h
  rw [UInt8.toNat_ofNat']
  omega

/-- The byte of a digit is a digit of the same value. -/
theorem digit_of_isDigit {c : Char} (h : c.isDigit = true) :
    String.utf8EncodeChar c = [UInt8.ofNat c.toNat] ∧ isDigit (UInt8.ofNat c.toNat) = true ∧
      digitValue (UInt8.ofNat c.toNat) = c.toNat - '0'.toNat := by
  have hc : 48 ≤ c.toNat ∧ c.toNat ≤ 57 := Char.isDigit_iff_toNat.mp h
  refine ⟨utf8EncodeChar_of_lt (by omega), ?_, ?_⟩
  · simp only [isDigit, Bool.and_eq_true, decide_eq_true_eq, UInt8.le_iff_toNat_le,
      toNat_of_isDigit h]
    exact hc
  · rw [digitValue, toNat_of_isDigit h]
    rfl

/-- Digits are taken as long as the number they write is below the bound. -/
theorem absorb_encode {bound : Nat} : ∀ (cs : List Char) (n count : Nat),
    (∀ c ∈ cs, c.isDigit = true) → Nat.ofDigitChars 10 cs n < bound → Ends rest →
      absorb bound n count (encode cs ++ rest) =
        (Nat.ofDigitChars 10 cs n, count + cs.length, rest)
  | [], n, count, _, _, hrest => by
    rw [encode_nil, List.nil_append]
    cases rest with
    | nil => rfl
    | cons b bs =>
      have hb : isDigit b = false := (hrest b rfl).1
      rw [absorb, if_neg (by simp [hb])]
      rfl
  | c :: cs, n, count, hdigits, hbound, hrest => by
    obtain ⟨hc, hcs⟩ := List.forall_mem_cons.mp hdigits
    obtain ⟨hbytes, hdigit, hvalue⟩ := digit_of_isDigit hc
    rw [Nat.ofDigitChars_cons, Nat.mul_comm] at hbound
    have hnext := Nat.lt_of_le_of_lt (le_ofDigitChars cs _) hbound
    rw [encode_cons, hbytes, List.singleton_append, List.cons_append, absorb, hvalue,
      if_pos ⟨hdigit, hnext⟩, absorb_encode cs _ _ hcs hbound hrest, Nat.ofDigitChars_cons,
      Nat.mul_comm 10 n, List.length_cons]
    congr 2
    omega

/-- The digits of a number that is not zero do not begin with a zero. -/
theorem exists_toDigits_cons (n : Nat) : 0 < n → ∃ c cs, Nat.toDigits 10 n = c :: cs ∧ c ≠ '0' := by
  induction n using Nat.strongRecOn with
  | ind n ih =>
    intro hn
    by_cases hlow : n < 10
    · refine ⟨Nat.digitChar n, [], Nat.toDigits_of_lt_base hlow, ?_⟩
      have nonzero : ∀ m < 10, 0 < m → Nat.digitChar m ≠ '0' := by decide
      exact nonzero n hlow hn
    · obtain ⟨c, cs, hcs, hc⟩ := ih (n / 10) (by omega) (by omega)
      refine ⟨c, cs ++ [Nat.digitChar (n % 10)], ?_, hc⟩
      rw [Nat.toDigits_of_base_le (by decide) (by omega), hcs]
      rfl

/-- **A number of 64 bits is read back from its digits.** -/
theorem readNumber_toDigits (positive : Bool) {n : Nat} (hn : n < Nat.pow 2 64)
    (hrest : Ends rest) :
    readNumber positive (encode (Nat.toDigits 10 n) ++ rest) =
      .ok (endInteger positive n, rest) := by
  by_cases hzero : n = 0
  · subst hzero
    show readNumber positive (0x30 :: rest) = _
    rw [readNumber, if_pos rfl, hrest.digitNext]
    exact hrest.readFraction 0
  · obtain ⟨c, cs, hcs, hc⟩ := exists_toDigits_cons n (Nat.pos_of_ne_zero hzero)
    have hdigits : ∀ d ∈ c :: cs, d.isDigit = true := fun d hd =>
      Nat.isDigit_of_mem_toDigits (by decide) (by decide) (hcs ▸ hd)
    obtain ⟨hfirst, hcs'⟩ := List.forall_mem_cons.mp hdigits
    obtain ⟨hbytes, hdigit, hvalue⟩ := digit_of_isDigit hfirst
    have hnum : Nat.ofDigitChars 10 cs (c.toNat - '0'.toNat) = n := by
      have h := Nat.ofDigitChars_ten_toDigits (n := n)
      rwa [hcs, Nat.ofDigitChars_cons, Nat.mul_zero, Nat.zero_add] at h
    have hnot : UInt8.ofNat c.toNat ≠ 0x30 := fun h => by
      have h' := toNat_of_isDigit hfirst
      rw [h] at h'
      exact hc (Char.toNat_inj.mp h'.symm)
    rw [hcs, encode_cons, hbytes, List.singleton_append, List.cons_append, readNumber,
      if_neg hnot, if_pos hdigit, hvalue, absorb_encode cs _ _ hcs' (hnum ▸ hn) hrest, hnum]
    simp only [hrest.digitNext]
    exact hrest.readFraction n

end number

/-! ### Values -/

section value

variable {rest : Bytes} {limit depth : Nat}

theorem readScalar_text (s : String) (rest : Bytes) :
    readScalar 0x22 (s.toList.flatMap escapeBytes ++ 0x22 :: rest) = .ok (.string s, rest) := by
  rw [readScalar, if_neg (by decide), if_neg (by decide), if_neg (by decide), if_pos rfl,
    readText_quotedBytes]

theorem ne_of_isDigit {b x : UInt8} (h : isDigit b = true) (hx : isDigit x = false) : b ≠ x := by
  rintro rfl
  rw [h] at hx
  cases hx

/-- A digit begins a number and nothing else. -/
theorem readScalar_digit {b : UInt8} (h : isDigit b = true) {bs : Bytes} {n : Number}
    (hn : readNumber true (b :: bs) = .ok (n, rest)) : readScalar b bs = .ok (.number n, rest) := by
  rw [readScalar, if_neg (ne_of_isDigit h (by decide)), if_neg (ne_of_isDigit h (by decide)),
    if_neg (ne_of_isDigit h (by decide)), if_neg (ne_of_isDigit h (by decide)),
    if_neg (ne_of_isDigit h (by decide)), if_pos h, hn]

/-- The bytes of an integer are those of its digits, behind a sign if it is negative. -/
theorem bytes_int (z : Int) : (Json.number (.int z)).bytes =
    (if z < 0 then [0x2D] else []) ++ encode (Nat.toDigits 10 z.natAbs) := by
  rw [bytes, toList_text_int, encode_append]
  split <;> rfl

theorem endInteger_of_neg {z : Int} (low : -Nat.pow 2 63 ≤ z) (neg : z < 0) :
    endInteger false z.natAbs = .int z := by
  have hsmall : ¬ (z.natAbs = 0 ∨ Nat.pow 2 63 < z.natAbs) := by omega
  rw [endInteger, if_neg (by decide), if_neg hsmall]
  congr 1
  omega

/-- A byte that begins a value that is no list and no object. -/
def BeginsScalar (b : UInt8) : Prop := isSpace b = false ∧ b ≠ 0x5B ∧ b ≠ 0x7B ∧ b ≠ 0x5D

theorem beginsScalar_of_isDigit {b : UInt8} (h : isDigit b = true) : BeginsScalar b := by
  refine ⟨?_, ne_of_isDigit h (by decide), ne_of_isDigit h (by decide),
    ne_of_isDigit h (by decide)⟩
  have blank : b ≠ 0x20 := ne_of_isDigit h (by decide)
  have tab : b ≠ 0x09 := ne_of_isDigit h (by decide)
  have feed : b ≠ 0x0A := ne_of_isDigit h (by decide)
  have back : b ≠ 0x0D := ne_of_isDigit h (by decide)
  simp [isSpace, blank, tab, feed, back]

/-- An integer begins with its sign or with a digit. -/
theorem bytes_int_cases (z : Int) :
    (z < 0 ∧ (Json.number (.int z)).bytes = 0x2D :: encode (Nat.toDigits 10 z.natAbs)) ∨
    (0 ≤ z ∧ ∃ b bs, isDigit b = true ∧ encode (Nat.toDigits 10 z.natAbs) = b :: bs ∧
      (Json.number (.int z)).bytes = b :: bs) := by
  rw [bytes_int]
  by_cases neg : z < 0
  · rw [if_pos neg]
    exact .inl ⟨neg, rfl⟩
  · have hne : Nat.toDigits 10 z.natAbs ≠ [] := Nat.toDigits_ne_nil
    obtain ⟨c, cs, hcs⟩ := List.exists_cons_of_ne_nil hne
    have hc : c.isDigit = true :=
      Nat.isDigit_of_mem_toDigits (by decide) (by decide) (hcs ▸ List.mem_cons_self)
    obtain ⟨hbytes, hdigit, -⟩ := digit_of_isDigit hc
    have hsplit : encode (Nat.toDigits 10 z.natAbs) = UInt8.ofNat c.toNat :: encode cs := by
      rw [hcs, encode_cons, hbytes, List.singleton_append]
    rw [if_neg neg]
    exact .inr ⟨Int.not_lt.mp neg, _, _, hdigit, hsplit, hsplit⟩

theorem natAbs_lt_of_word {z : Int} (low : -Nat.pow 2 63 ≤ z) (high : z ≤ uintMax) :
    z.natAbs < Nat.pow 2 64 := by
  have hmax : uintMax = Nat.pow 2 64 - 1 := rfl
  have h63 : Nat.pow 2 63 < Nat.pow 2 64 := by decide
  omega

theorem endInteger_of_nonneg {z : Int} (h : 0 ≤ z) : endInteger true z.natAbs = .int z := by
  rw [endInteger, if_pos rfl, Int.natAbs_of_nonneg h]

/-- What an integer begins with, and that it is read back. -/
theorem exists_bytes_int {z : Int} (low : -Nat.pow 2 63 ≤ z) (high : z ≤ uintMax) :
    ∃ b bs, (Json.number (.int z)).bytes = b :: bs ∧ BeginsScalar b ∧
      ∀ rest, Ends rest → readScalar b (bs ++ rest) = .ok (.number (.int z), rest) := by
  have hbound := natAbs_lt_of_word low high
  rcases bytes_int_cases z with ⟨neg, hbytes⟩ | ⟨nonneg, b, bs, hdigit, hdigits, hbytes⟩
  · refine ⟨_, _, hbytes, by unfold BeginsScalar; decide, fun rest hrest => ?_⟩
    rw [readScalar, if_neg (by decide), if_neg (by decide), if_neg (by decide),
      if_neg (by decide), if_pos rfl, readNumber_toDigits false hbound hrest,
      endInteger_of_neg low neg]
  · refine ⟨b, bs, hbytes, beginsScalar_of_isDigit hdigit, fun rest hrest => ?_⟩
    have hread := readNumber_toDigits true hbound hrest
    rw [hdigits, List.cons_append] at hread
    rw [readScalar_digit hdigit hread, endInteger_of_nonneg nonneg]

/-- What a value begins with: no space, and no closing bracket. -/
theorem Plain.exists_bytes_cons {d : Nat} {v : Json} (h : v.Plain d) :
    ∃ b bs, v.bytes = b :: bs ∧ isSpace b = false ∧ b ≠ 0x5D := by
  cases h with
  | null => exact ⟨_, _, rfl, by decide⟩
  | bool b => cases b <;> exact ⟨_, _, rfl, by decide⟩
  | @int d z low high =>
    obtain ⟨b, bs, hbs, ⟨hspace, -, -, hclose⟩, -⟩ := exists_bytes_int low high
    exact ⟨b, bs, hbs, hspace, hclose⟩
  | string s => exact ⟨_, _, rfl, by decide⟩
  | @array d vs items => cases vs <;> exact ⟨_, _, rfl, by decide⟩
  | @object d ms members => cases ms <;> exact ⟨_, _, rfl, by decide⟩

theorem skipSpace_cons {b : UInt8} (h : isSpace b = false) (bs : Bytes) :
    skipSpace (b :: bs) = b :: bs := by
  rw [skipSpace, List.dropWhile_cons_of_neg (by simp [h])]

theorem readValue_scalar {b : UInt8} {bs : Bytes} {v : Json} (hb : BeginsScalar b)
    (h : readScalar b bs = .ok (v, rest)) : readValue limit depth (b :: bs) = .ok (v, rest) := by
  obtain ⟨hspace, hlist, hobject, -⟩ := hb
  unfold readValue
  simp only [skipSpace_cons hspace, if_neg hlist, if_neg hobject, h]

/-! ### Lists and objects -/

/-- The reader reads the value back wherever it ends. -/
def ReadsBack (item : Bytes → Read Json) (v : Json) : Prop :=
  ∀ rest, Ends rest → item (v.bytes ++ rest) = .ok (v, rest)

variable {item : Bytes → Read Json} {d : Nat}

/-- Items are read back one after the other. -/
theorem readItems_bytes : ∀ (vs : List Json) (v : Json) (acc : List Json) (limit : Nat),
    (∀ u ∈ v :: vs, ReadsBack item u ∧ u.Plain d) → vs.length < limit →
      readItems item limit acc (v.bytes ++ (restOfItems vs ++ rest)) =
        .ok (acc.reverse ++ v :: vs, rest)
  | [], v, acc, limit + 1, h, _ => by
    have hends : Ends (restOfItems [] ++ rest) := ends_cons (by decide)
    rw [readItems, (h v List.mem_cons_self).1 _ hends]
    simp only [restOfItems, List.singleton_append, skipSpace_cons (b := 0x5D) (by decide)]
    rw [List.reverse_cons]
  | u :: vs, v, acc, limit + 1, h, hlimit => by
    obtain ⟨hv, hvs⟩ := List.forall_mem_cons.mp h
    have hends : Ends (restOfItems (u :: vs) ++ rest) := ends_cons (by decide)
    rw [readItems, hv.1 _ hends]
    obtain ⟨b, bs, hbs, hspace, hclose⟩ := (hvs u List.mem_cons_self).2.exists_bytes_cons
    have ih := readItems_bytes vs u (v :: acc) limit hvs (by simpa using hlimit)
    rw [hbs, List.cons_append] at ih
    simp only [restOfItems, List.cons_append, List.append_assoc,
      skipSpace_cons (b := 0x2C) (by decide), hbs, skipSpace_cons hspace]
    split
    · rename_i heq
      cases heq
    · rename_i heq
      exact absurd (List.cons.inj heq).1 hclose
    · rw [ih, List.reverse_cons, List.append_assoc, List.singleton_append]
  | _, _, _, 0, _, hlimit => absurd hlimit (Nat.not_lt_zero _)

theorem readMember_bytes {k : String} {v : Json} (hv : ReadsBack item v)
    (acc : List (String × Json)) (hrest : Ends rest) :
    readMember item acc k (0x3A :: (v.bytes ++ rest)) = .ok ((k, v) :: acc, rest) := by
  have hcolon : readColon (0x3A :: (v.bytes ++ rest)) = .ok (v.bytes ++ rest) := rfl
  rw [readMember, hcolon]
  simp only [hv rest hrest]

/-- Members are read back one after the other; those read so far are in reverse. -/
theorem readMembersFrom_bytes : ∀ (ms : List (String × Json)) (k : String) (v : Json)
    (acc : List (String × Json)) (limit : Nat), (∀ m ∈ (k, v) :: ms, ReadsBack item m.2) →
      ms.length < limit →
      readMembersFrom (readMember item) limit acc
          (quotedBytes k ++ 0x3A :: (v.bytes ++ (restOfMembers ms ++ rest))) =
        .ok (((k, v) :: ms).reverse ++ acc, rest)
  | [], k, v, acc, limit + 1, h, _ => by
    have hends : Ends (restOfMembers [] ++ rest) := ends_cons (by decide)
    rw [quotedBytes, List.cons_append, readMembersFrom, if_pos rfl, List.append_assoc,
      List.singleton_append, readText_quotedBytes]
    simp only [readMember_bytes (h _ List.mem_cons_self) acc hends]
    rfl
  | (k', v') :: ms, k, v, acc, limit + 1, h, hlimit => by
    obtain ⟨hv, hms⟩ := List.forall_mem_cons.mp h
    have hends : Ends (restOfMembers ((k', v') :: ms) ++ rest) := ends_cons (by decide)
    have ih := readMembersFrom_bytes ms k' v' ((k, v) :: acc) limit hms (by simpa using hlimit)
    rw [quotedBytes, List.cons_append, readMembersFrom, if_pos rfl, List.append_assoc,
      List.singleton_append, readText_quotedBytes]
    simp only [readMember_bytes hv acc hends]
    simp only [restOfMembers, List.cons_append, List.append_assoc, quotedBytes, List.nil_append,
      skipSpace_cons (b := 0x2C) (by decide), skipSpace_cons (b := 0x22) (by decide)] at ih ⊢
    refine ih.trans ?_
    simp
  | _, _, _, _, 0, _, hlimit => absurd hlimit (Nat.not_lt_zero _)

theorem readList_bytes {v : Json} {vs : List Json}
    (h : ∀ u ∈ v :: vs, ReadsBack item u ∧ u.Plain d) (short : vs.length < limit) :
    readList item limit (v.bytes ++ (restOfItems vs ++ rest)) = .ok (v :: vs, rest) := by
  have hitems : readItems item limit [] (v.bytes ++ (restOfItems vs ++ rest)) =
      .ok ([].reverse ++ v :: vs, rest) := readItems_bytes vs v [] limit h short
  obtain ⟨b, bs, hbs, hspace, hclose⟩ := (h v List.mem_cons_self).2.exists_bytes_cons
  rw [hbs, List.cons_append] at hitems ⊢
  unfold readList
  rw [skipSpace_cons hspace]
  split
  · rename_i heq
    cases heq
  · rename_i heq
    exact absurd (List.cons.inj heq).1 hclose
  · exact hitems

/-! ### Lengths -/

theorem length_le_restOfItems {vs : List Json} {v : Json} (h : v ∈ vs) :
    v.bytes.length ≤ (restOfItems vs).length := by
  induction vs with
  | nil => cases h
  | cons u vs ih =>
    rw [restOfItems, List.length_cons, List.length_append]
    rcases List.mem_cons.mp h with rfl | h
    · omega
    · have := ih h
      omega

theorem length_lt_restOfItems (vs : List Json) : vs.length < (restOfItems vs).length := by
  induction vs with
  | nil => decide
  | cons v vs ih =>
    rw [restOfItems, List.length_cons, List.length_cons, List.length_append]
    omega

theorem length_le_restOfMembers {ms : List (String × Json)} {m : String × Json} (h : m ∈ ms) :
    m.2.bytes.length ≤ (restOfMembers ms).length := by
  induction ms with
  | nil => cases h
  | cons u ms ih =>
    rw [restOfMembers, List.length_cons, List.length_append, List.length_cons, List.length_append]
    rcases List.mem_cons.mp h with rfl | h
    · omega
    · have := ih h
      omega

theorem length_lt_restOfMembers (ms : List (String × Json)) :
    ms.length < (restOfMembers ms).length := by
  induction ms with
  | nil => decide
  | cons m ms ih =>
    rw [restOfMembers, List.length_cons, List.length_cons, List.length_append, List.length_cons,
      List.length_append]
    omega

/-- There are no more items than bytes. -/
theorem length_le_array (vs : List Json) : vs.length ≤ (Json.array vs).bytes.length := by
  cases vs with
  | nil => exact Nat.zero_le _
  | cons v vs =>
    have := length_lt_restOfItems vs
    rw [bytes, List.length_cons, List.length_cons, List.length_append]
    omega

/-- There are no more members than bytes. -/
theorem length_le_object (ms : List (String × Json)) :
    ms.length ≤ (Json.object ms).bytes.length := by
  cases ms with
  | nil => exact Nat.zero_le _
  | cons m ms =>
    have := length_lt_restOfMembers ms
    rw [bytes, List.length_cons, List.length_cons, List.length_append, List.length_cons,
      List.length_append]
    omega

/-- An item is not longer than the list. -/
theorem length_bytes_item {vs : List Json} {v : Json} (h : v ∈ vs) :
    v.bytes.length ≤ (Json.array vs).bytes.length := by
  cases vs with
  | nil => cases h
  | cons u vs =>
    rw [bytes, List.length_cons, List.length_append]
    rcases List.mem_cons.mp h with rfl | h
    · omega
    · have := length_le_restOfItems h
      omega

/-- The value of a member is not longer than the object. -/
theorem length_bytes_member {ms : List (String × Json)} {m : String × Json} (h : m ∈ ms) :
    m.2.bytes.length ≤ (Json.object ms).bytes.length := by
  cases ms with
  | nil => cases h
  | cons u ms =>
    rw [bytes, List.length_cons, List.length_append, List.length_cons, List.length_append]
    rcases List.mem_cons.mp h with rfl | h
    · omega
    · have := length_le_restOfMembers h
      omega

/-! ### Every plain value -/

/-- A list is read back if its items are. -/
theorem readsBack_array {vs : List Json}
    (h : ∀ u ∈ vs, ReadsBack (readValue limit d) u ∧ u.Plain d)
    (short : (Json.array vs).bytes.length ≤ limit) :
    ReadsBack (readValue limit (d + 1)) (.array vs) := by
  intro rest _
  cases vs with
  | nil =>
    unfold readValue
    rfl
  | cons v vs =>
    have hshort : vs.length < limit := by
      have := length_lt_restOfItems vs
      rw [bytes, List.length_cons, List.length_append] at short
      omega
    unfold readValue
    rw [bytes, List.cons_append, List.append_assoc, skipSpace_cons (by decide)]
    simp only [readList_bytes h hshort, if_pos]

/-- An object is read back if the values of its members are. -/
theorem readsBack_object {ms : List (String × Json)}
    (h : ∀ m ∈ ms, ReadsBack (readValue limit d) m.2)
    (short : (Json.object ms).bytes.length ≤ limit) :
    ReadsBack (readValue limit (d + 1)) (.object ms) := by
  intro rest _
  cases ms with
  | nil =>
    unfold readValue
    rfl
  | cons m ms =>
    obtain ⟨k, v⟩ := m
    have hshort : ms.length < limit := by
      have := length_lt_restOfMembers ms
      rw [bytes, List.length_cons, List.length_append, List.length_cons, List.length_append]
        at short
      omega
    have hmembers : readMembers (readMember (readValue limit d)) limit []
        (quotedBytes k ++ 0x3A :: (v.bytes ++ (restOfMembers ms ++ rest))) =
          .ok (((k, v) :: ms).reverse ++ [], rest) :=
      readMembersFrom_bytes ms k v [] limit h hshort
    rw [bytes, List.cons_append, List.append_assoc, List.cons_append, List.append_assoc]
    unfold readValue
    rw [skipSpace_cons (by decide)]
    simp only [hmembers, if_pos, List.append_nil, List.reverse_reverse]
    rfl

/-- **A plain value is read back.** -/
theorem Plain.readsBack {v : Json} (h : v.Plain d) :
    ∀ limit, v.bytes.length ≤ limit → ReadsBack (readValue limit d) v := by
  induction h with
  | null => exact fun _ _ rest _ => readValue_scalar (by unfold BeginsScalar; decide) rfl
  | bool b =>
    intro limit _ rest _
    cases b <;> exact readValue_scalar (by unfold BeginsScalar; decide) rfl
  | int low high =>
    intro limit _ rest hrest
    obtain ⟨b, bs, hbs, hb, hread⟩ := exists_bytes_int low high
    rw [hbs]
    exact readValue_scalar hb (hread rest hrest)
  | string s =>
    intro limit _ rest _
    rw [bytes, quotedBytes, List.cons_append, List.append_assoc]
    exact readValue_scalar (by unfold BeginsScalar; decide) (readScalar_text s rest)
  | @array d vs items ih =>
    intro limit short
    refine readsBack_array (fun u hu => ⟨ih u hu limit ?_, items u hu⟩) short
    exact Nat.le_trans (length_bytes_item hu) short
  | @object d ms members ih =>
    intro limit short
    refine readsBack_object (fun m hm => ih m hm limit ?_) short
    exact Nat.le_trans (length_bytes_member hm) short

/-- **A plain value is what its line is read as.** -/
theorem Plain.parse_compact {v : Json} (h : v.Plain depthLimit) :
    parse (utf8 v.compact) = .ok v := by
  have hread := h.readsBack v.bytes.length (Nat.le_refl _) [] ends_nil
  rw [List.append_nil] at hread
  rw [parse, readWhole, utf8_compact, hread]
  rfl

end value

end SessionWatch.Json
