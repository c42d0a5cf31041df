/-
# The bytes of characters

A character below 128 is one byte of its number, and every byte of another
character is at least 128. So a byte below 128 in a text is a character of the
text, and no character is mistaken for a part of another one.

Key definitions: `Text.encode`.
Key theorems: `Text.utf8_eq_encode`, `Text.le_of_mem_encode`.
-/
import SessionWatch.Text.Utf8

namespace SessionWatch.Text

/-- The bytes of some characters. -/
def encode (cs : List Char) : Bytes := cs.flatMap String.utf8EncodeChar

@[simp] theorem encode_nil : encode [] = [] := rfl

@[simp] theorem encode_cons (c : Char) (cs : List Char) :
    encode (c :: cs) = String.utf8EncodeChar c ++ encode cs := rfl

@[simp] theorem encode_append (cs ds : List Char) : encode (cs ++ ds) = encode cs ++ encode ds :=
  List.flatMap_append

theorem encode_flatMap {α : Type} (f : α → List Char) (as : List α) :
    encode (as.flatMap f) = as.flatMap fun a => encode (f a) :=
  List.flatMap_assoc

theorem utf8_eq_encode (s : String) : utf8 s = encode s.toList := by
  have h := utf8_ofList s.toList
  rwa [String.ofList_toList] at h

theorem utf8_append (s t : String) : utf8 (s ++ t) = utf8 s ++ utf8 t := by
  rw [utf8_eq_encode, String.toList_append, encode_append, ← utf8_eq_encode, ← utf8_eq_encode]

theorem utf8EncodeChar_of_lt {c : Char} (h : c.toNat < 128) :
    String.utf8EncodeChar c = [UInt8.ofNat c.toNat] := by
  have hc : c.val.toNat ≤ 127 := Nat.le_of_lt_succ h
  rw [String.utf8EncodeChar]
  exact if_pos hc

/-- The bytes of a character beyond the first 128 are no bytes of such characters. -/
theorem le_of_mem_utf8EncodeChar {c : Char} (h : 128 ≤ c.toNat) {b : UInt8}
    (hb : b ∈ String.utf8EncodeChar c) : 128 ≤ b.toNat := by
  have hc : ¬ c.val.toNat ≤ 127 := Nat.not_le_of_lt h
  rw [String.utf8EncodeChar] at hb
  simp only [if_neg hc] at hb
  split at hb
  · simp only [List.mem_cons, List.not_mem_nil, or_false] at hb
    rcases hb with rfl | rfl <;> (rw [UInt8.toNat_ofNat']; omega)
  · split at hb
    · simp only [List.mem_cons, List.not_mem_nil, or_false] at hb
      rcases hb with rfl | rfl | rfl <;> (rw [UInt8.toNat_ofNat']; omega)
    · simp only [List.mem_cons, List.not_mem_nil, or_false] at hb
      rcases hb with rfl | rfl | rfl | rfl <;> (rw [UInt8.toNat_ofNat']; omega)

/-- A byte of ASCII is that of its character. -/
theorem eq_of_mem_utf8EncodeChar {c : Char} {b : UInt8} (low : b.toNat < 128)
    (hb : b ∈ String.utf8EncodeChar c) : c = Char.ofNat b.toNat := by
  by_cases hc : c.toNat < 128
  · rw [utf8EncodeChar_of_lt hc, List.mem_singleton] at hb
    have same : b.toNat = c.toNat := by
      rw [hb, UInt8.toNat_ofNat']
      omega
    rw [same, Char.ofNat_toNat]
  · exact absurd (le_of_mem_utf8EncodeChar (Nat.le_of_not_lt hc) hb) (Nat.not_le_of_lt low)

/-- A byte of ASCII in a text is a character of the text. -/
theorem mem_of_mem_encode {cs : List Char} {b : UInt8} (low : b.toNat < 128) (hb : b ∈ encode cs) :
    Char.ofNat b.toNat ∈ cs := by
  obtain ⟨c, hc, hb⟩ := List.mem_flatMap.mp hb
  rwa [← eq_of_mem_utf8EncodeChar low hb]

/-- A character of one byte is told by the first byte. -/
theorem head?_of_encode {c : Char} (low : c.toNat < 128) {cs : List Char} {bs : Bytes}
    (h : encode cs = UInt8.ofNat c.toNat :: bs) : cs.head? = some c := by
  have same : (UInt8.ofNat c.toNat).toNat = c.toNat := by
    rw [UInt8.toNat_ofNat']
    omega
  cases cs with
  | nil => cases h
  | cons d ds =>
    obtain ⟨b, rest, hd⟩ := List.exists_cons_of_ne_nil (String.utf8EncodeChar_ne_nil (c := d))
    rw [encode_cons, hd, List.cons_append] at h
    have first : UInt8.ofNat c.toNat ∈ String.utf8EncodeChar d := by
      rw [hd, (List.cons.inj h).1]
      exact List.mem_cons_self
    rw [List.head?_cons, eq_of_mem_utf8EncodeChar (by omega) first, same, Char.ofNat_toNat]

/-- A byte of a text of printable characters is none of the control characters. -/
theorem le_of_mem_encode {cs : List Char} (h : ∀ c ∈ cs, 32 ≤ c.toNat) {b : UInt8}
    (hb : b ∈ encode cs) : 32 ≤ b.toNat := by
  obtain ⟨c, hc, hb⟩ := List.mem_flatMap.mp hb
  by_cases hlow : c.toNat < 128
  · rw [utf8EncodeChar_of_lt hlow, List.mem_singleton] at hb
    have := h c hc
    rw [hb, UInt8.toNat_ofNat']
    omega
  · have := le_of_mem_utf8EncodeChar (Nat.le_of_not_lt hlow) hb
    omega

end SessionWatch.Text
