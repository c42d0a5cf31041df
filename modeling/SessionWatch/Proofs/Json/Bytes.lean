/-
# The bytes of a written value

What a value is in one line, as bytes and by plain recursion: `Json.bytes`
gives the same bytes as `Json.compact`, which builds its text backwards. A
value whose numbers are integers has no byte below the blank among them, so
it is one line whatever its texts hold.

Key definitions: `Json.escapeBytes`, `Json.quotedBytes`, `Json.bytes`,
`Json.Plain`.
Key theorems: `Json.utf8_compact`, `Json.Plain.le_of_mem_bytes`.
-/
import SessionWatch.Json.Printer
import SessionWatch.Proofs.Text.Bytes

namespace SessionWatch

namespace Json

open Text

/-- The bytes that stand for a character of a text. -/
def escapeBytes (c : Char) : Bytes := encode (escapeChar c)

/-- The bytes of a text between quotes. -/
def quotedBytes (s : String) : Bytes := 0x22 :: (s.toList.flatMap escapeBytes ++ [0x22])

mutual

/-- The bytes of a value in one line. -/
def bytes : Json → Bytes
  | .null => [0x6E, 0x75, 0x6C, 0x6C]
  | .bool true => [0x74, 0x72, 0x75, 0x65]
  | .bool false => [0x66, 0x61, 0x6C, 0x73, 0x65]
  | .number n => encode n.text.toList
  | .string s => quotedBytes s
  | .array [] => [0x5B, 0x5D]
  | .array (v :: vs) => 0x5B :: (bytes v ++ restOfItems vs)
  | .object [] => [0x7B, 0x7D]
  | .object ((k, v) :: ms) => 0x7B :: (quotedBytes k ++ 0x3A :: (bytes v ++ restOfMembers ms))
termination_by structural v => v

/-- The bytes of a list after its first item. -/
def restOfItems : List Json → Bytes
  | [] => [0x5D]
  | v :: vs => 0x2C :: (bytes v ++ restOfItems vs)
termination_by structural vs => vs

/-- The bytes of an object after its first member. -/
def restOfMembers : List (String × Json) → Bytes
  | [] => [0x7D]
  | (k, v) :: ms => 0x2C :: (quotedBytes k ++ 0x3A :: (bytes v ++ restOfMembers ms))
termination_by structural ms => ms

end

/-! ### The text that is built backwards -/

theorem encode_push (cs acc : List Char) :
    encode (push cs acc).reverse = encode acc.reverse ++ encode cs := by
  simp [push, List.reverseAux_eq]

/-- A mark of one byte is put behind what is written. -/
theorem encode_reverse_cons {c : Char} {b : UInt8} (h : String.utf8EncodeChar c = [b])
    (acc : List Char) : encode (c :: acc).reverse = encode acc.reverse ++ [b] := by
  simp [h]

theorem encode_quoteChars (s : String) : encode (quoteChars s) = quotedBytes s := by
  have inner : encode (s.toList.flatMap escapeChar) = s.toList.flatMap escapeBytes :=
    encode_flatMap escapeChar s.toList
  have quote : String.utf8EncodeChar '"' = [0x22] := rfl
  simp [quoteChars, quotedBytes, inner, quote]

mutual

theorem encode_pushValue : ∀ (v : Json) (acc : List Char),
    encode (pushValue acc v).reverse = encode acc.reverse ++ bytes v
  | .null, acc => encode_push _ acc
  | .bool true, acc => encode_push _ acc
  | .bool false, acc => encode_push _ acc
  | .number n, acc => encode_push _ acc
  | .string s, acc => by rw [pushValue, encode_push, bytes, encode_quoteChars]
  | .array [], acc => encode_push _ acc
  | .array (v :: vs), acc => by
    rw [pushValue, encode_reverse_cons (b := 0x5D) rfl, encode_pushItems vs, encode_pushValue v,
      encode_reverse_cons (b := 0x5B) rfl, bytes]
    simp
  | .object [], acc => encode_push _ acc
  | .object ((k, v) :: ms), acc => by
    rw [pushValue, encode_reverse_cons (b := 0x7D) rfl, encode_pushMembers ms, encode_pushValue v,
      encode_reverse_cons (b := 0x3A) rfl, encode_push, encode_quoteChars,
      encode_reverse_cons (b := 0x7B) rfl, bytes]
    simp

theorem encode_pushItems : ∀ (vs : List Json) (acc : List Char),
    encode (pushItems acc vs).reverse ++ [0x5D] = encode acc.reverse ++ restOfItems vs
  | [], acc => rfl
  | v :: vs, acc => by
    rw [pushItems, encode_pushItems vs, encode_pushValue v, encode_reverse_cons (b := 0x2C) rfl,
      restOfItems]
    simp

theorem encode_pushMembers : ∀ (ms : List (String × Json)) (acc : List Char),
    encode (pushMembers acc ms).reverse ++ [0x7D] = encode acc.reverse ++ restOfMembers ms
  | [], acc => rfl
  | (k, v) :: ms, acc => by
    rw [pushMembers, encode_pushMembers ms, encode_pushValue v,
      encode_reverse_cons (b := 0x3A) rfl, encode_push, encode_quoteChars,
      encode_reverse_cons (b := 0x2C) rfl, restOfMembers]
    simp

end

/-- **The bytes of a value in one line.** -/
theorem utf8_compact (v : Json) : utf8 v.compact = v.bytes := by
  rw [compact, utf8_eq_encode, String.toList_ofList, encode_pushValue]
  rfl

/-- An object is written between braces. -/
theorem braces_compact (ms : List (String × Json)) :
    (Json.object ms).compact.toList.head? = some '{' ∧
      (Json.object ms).compact.toList.getLast? = some '}' := by
  have bytes : encode (Json.object ms).compact.toList = (Json.object ms).bytes := by
    rw [← utf8_eq_encode, utf8_compact]
  constructor
  · cases ms with
    | nil => exact head?_of_encode (by decide) bytes
    | cons m ms => exact head?_of_encode (by decide) bytes
  · rw [compact, String.toList_ofList, List.getLast?_reverse]
    cases ms <;> rfl

/-! ### Plain values -/

/-- A value whose numbers are integers of 64 bits and in which at most `depth` brackets stand
inside one another. -/
inductive Plain : (depth : Nat) → Json → Prop where
  | null {d : Nat} : Plain d .null
  | bool {d : Nat} (b : Bool) : Plain d (.bool b)
  | int {d : Nat} {z : Int} (low : -Nat.pow 2 63 ≤ z) (high : z ≤ uintMax) :
      Plain d (.number (.int z))
  | string {d : Nat} (s : String) : Plain d (.string s)
  | array {d : Nat} {vs : List Json} (items : ∀ v ∈ vs, Plain d v) : Plain (d + 1) (.array vs)
  | object {d : Nat} {ms : List (String × Json)} (members : ∀ m ∈ ms, Plain d m.2) :
      Plain (d + 1) (.object ms)

theorem mem_shortEscapes {c mark : Char} (h : shortEscapes.lookup c = some mark) :
    (c, mark) ∈ shortEscapes := by
  obtain ⟨before, after, hl, -⟩ := List.lookup_eq_some_iff.mp h
  simp [hl]

theorem le_of_mem_escapeChar {c d : Char} (h : d ∈ escapeChar c) : 32 ≤ d.toNat := by
  unfold escapeChar at h
  split at h
  · rename_i mark hmark
    have marks : ∀ m ∈ shortEscapes, 32 ≤ m.2.toNat := by decide
    simp only [List.mem_cons, List.not_mem_nil, or_false] at h
    rcases h with rfl | rfl
    · decide
    · exact marks _ (mem_shortEscapes hmark)
  · split at h
    · have digits : ∀ n < 16, 32 ≤ (Nat.digitChar n).toNat := by decide
      simp only [List.mem_cons, List.not_mem_nil, or_false] at h
      rcases h with rfl | rfl | rfl | rfl | rfl | rfl
      · decide
      · decide
      · decide
      · decide
      · split <;> decide
      · exact digits _ (Nat.mod_lt _ (by decide))
    · rename_i hprint
      rw [List.mem_singleton.mp h]
      exact Nat.le_of_not_lt hprint

theorem le_of_mem_quotedBytes {s : String} {b : UInt8} (h : b ∈ quotedBytes s) : 32 ≤ b.toNat := by
  rw [← encode_quoteChars] at h
  refine le_of_mem_encode (fun c hc => ?_) h
  simp only [quoteChars, List.cons_append, List.mem_cons, List.mem_append, List.mem_flatMap,
    List.not_mem_nil, or_false] at hc
  rcases hc with rfl | ⟨c', -, hc⟩ | rfl
  · decide
  · exact le_of_mem_escapeChar hc
  · decide

/-- The digits of an integer, behind a sign if it is negative. -/
theorem toList_text_int (z : Int) :
    (Number.int z).text.toList =
      (if z < 0 then ['-'] else []) ++ Nat.toDigits 10 z.natAbs := by
  cases z with
  | ofNat n =>
    show (toString (Int.ofNat n)).toList = _
    rw [show toString (Int.ofNat n) = Nat.repr n from rfl, Nat.repr_eq_ofList_toDigits]
    simp
  | negSucc n =>
    show (toString (Int.negSucc n)).toList = _
    rw [show toString (Int.negSucc n) = "-" ++ Nat.repr (n + 1) from rfl,
      Nat.repr_eq_ofList_toDigits]
    simp

/-- Marks and names are checked byte by byte. -/
theorem le_of_all {bs : Bytes} (h : (bs.all fun b => 32 ≤ b.toNat) = true) :
    ∀ b ∈ bs, 32 ≤ b.toNat := fun b hb => of_decide_eq_true (List.all_eq_true.mp h b hb)

theorem le_of_mem_restOfItems {vs : List Json} (h : ∀ v ∈ vs, ∀ b ∈ v.bytes, 32 ≤ b.toNat) :
    ∀ b ∈ restOfItems vs, 32 ≤ b.toNat := by
  induction vs with
  | nil => exact le_of_all rfl
  | cons v vs ih =>
    rw [List.forall_mem_cons] at h
    rw [restOfItems, List.forall_mem_cons, List.forall_mem_append]
    exact ⟨by decide, h.1, ih h.2⟩

theorem le_of_mem_restOfMembers {ms : List (String × Json)}
    (h : ∀ m ∈ ms, ∀ b ∈ m.2.bytes, 32 ≤ b.toNat) :
    ∀ b ∈ restOfMembers ms, 32 ≤ b.toNat := by
  induction ms with
  | nil => exact le_of_all rfl
  | cons m ms ih =>
    rw [List.forall_mem_cons] at h
    rw [restOfMembers, List.forall_mem_cons, List.forall_mem_append, List.forall_mem_cons,
      List.forall_mem_append]
    exact ⟨by decide, fun _ hb => le_of_mem_quotedBytes hb, by decide, h.1, ih h.2⟩

/-- **A plain value is written without control characters.** -/
theorem Plain.le_of_mem_bytes {d : Nat} {v : Json} (h : v.Plain d) :
    ∀ b ∈ v.bytes, 32 ≤ b.toNat := by
  induction h with
  | null => exact le_of_all rfl
  | bool b => cases b <;> exact le_of_all rfl
  | @int _ z low high =>
    intro b hb
    refine le_of_mem_encode (fun c hc => ?_) hb
    rw [toList_text_int, List.mem_append] at hc
    rcases hc with hc | hc
    · split at hc
      · rw [List.mem_singleton.mp hc]
        decide
      · exact absurd hc List.not_mem_nil
    · have := Nat.isDigit_of_mem_toDigits (by decide) (by decide) hc
      rw [Char.isDigit_iff_toNat] at this
      have zero : '0'.toNat = 48 := rfl
      omega
  | string s => exact fun b hb => le_of_mem_quotedBytes hb
  | @array d vs items ih =>
    cases vs with
    | nil => exact le_of_all rfl
    | cons v vs =>
      rw [List.forall_mem_cons] at ih
      rw [bytes, List.forall_mem_cons, List.forall_mem_append]
      exact ⟨by decide, ih.1, le_of_mem_restOfItems ih.2⟩
  | @object d ms members ih =>
    cases ms with
    | nil => exact le_of_all rfl
    | cons m ms =>
      rw [List.forall_mem_cons] at ih
      rw [bytes, List.forall_mem_cons, List.forall_mem_append, List.forall_mem_cons,
        List.forall_mem_append]
      exact ⟨by decide, fun _ hb => le_of_mem_quotedBytes hb, by decide, ih.1,
        le_of_mem_restOfMembers ih.2⟩

end Json

end SessionWatch
