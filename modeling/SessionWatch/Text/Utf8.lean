/-
# Text and its bytes

A line of the control socket is a list of bytes; the texts inside it are
strings. `Text.utf8` gives the bytes of a text, `Text.ofUtf8?` reads them back
and refuses anything that is not UTF-8, and `Text.ofUtf8Lossy` puts one
replacement character for each maximal run of bytes that begins a character
and does not finish it. `Text.brokenLength` measures what the first such run
begins.

Key definitions: `Bytes`, `Text.utf8`, `Text.ofUtf8?`, `Text.brokenLength`, `Text.ofUtf8Lossy`.
Key theorems: `Text.ofUtf8?_utf8`, `Text.utf8_of_ofUtf8?`, `Text.utf8_ofList`.
-/

namespace SessionWatch

/-- A stretch of a byte stream. -/
abbrev Bytes := List UInt8

namespace Text

/-- The UTF-8 bytes of a text. -/
def utf8 (s : String) : Bytes := s.toUTF8.data.toList

/-- The text whose bytes these are, if they are UTF-8. -/
def ofUtf8? (bs : Bytes) : Option String := String.fromUTF8? ⟨bs.toArray⟩

theorem ofUtf8?_utf8 (s : String) : ofUtf8? (utf8 s) = some s := by
  simp [ofUtf8?, utf8, String.fromUTF8?, String.toUTF8, s.isValidUTF8, String.fromUTF8]

theorem utf8_of_ofUtf8? {bs : Bytes} {s : String} (h : ofUtf8? bs = some s) : utf8 s = bs := by
  unfold ofUtf8? String.fromUTF8? at h
  split at h
  · cases h; simp [utf8, String.toUTF8, String.fromUTF8]
  · exact absurd h (by simp)

/-- A text is written character by character. -/
theorem utf8_ofList (cs : List Char) :
    utf8 (String.ofList cs) = cs.flatMap String.utf8EncodeChar := by
  simp [utf8, String.toUTF8, List.utf8Encode]

/-- How far a character being read has come: the bytes still to come, the
bounds of the next one, and the bits so far. -/
structure Partial where
  left : Nat
  low : UInt8
  high : UInt8
  bits : Nat

/-- What a byte that begins a character leaves to be read. -/
def Partial.ofLead? (b : UInt8) : Option Partial :=
  if 0xC2 ≤ b ∧ b ≤ 0xDF then some ⟨1, 0x80, 0xBF, b.toNat - 0xC0⟩
  else if b = 0xE0 then some ⟨2, 0xA0, 0xBF, 0⟩
  else if b = 0xED then some ⟨2, 0x80, 0x9F, 13⟩
  else if 0xE1 ≤ b ∧ b ≤ 0xEF then some ⟨2, 0x80, 0xBF, b.toNat - 0xE0⟩
  else if b = 0xF0 then some ⟨3, 0x90, 0xBF, 0⟩
  else if 0xF1 ≤ b ∧ b ≤ 0xF3 then some ⟨3, 0x80, 0xBF, b.toNat - 0xF0⟩
  else if b = 0xF4 then some ⟨3, 0x80, 0x8F, 4⟩
  else none

/-- Takes one more byte of a character, if it may stand there: the character itself, or what is
still to be read of it. -/
def Partial.step? (p : Partial) (b : UInt8) : Option (Char ⊕ Partial) :=
  if p.low ≤ b ∧ b ≤ p.high then
    let bits := p.bits * 64 + (b.toNat - 0x80)
    some (if p.left = 1 then .inl (Char.ofNat bits) else .inr ⟨p.left - 1, 0x80, 0xBF, bits⟩)
  else none

/-- How many bytes stand from the first one on that no character accounts for; `held` of the bytes
before belong to a character that is being read. -/
def brokenFrom (held : Nat) : (pending : Option Partial) → Bytes → Nat
  | _, [] => held
  | none, b :: bs =>
    if b < 0x80 then brokenFrom 0 none bs
    else match Partial.ofLead? b with
      | some p => brokenFrom 1 (some p) bs
      | none => bs.length + 1
  | some p, b :: bs =>
    match p.step? b with
    | some (.inl _) => brokenFrom 0 none bs
    | some (.inr p) => brokenFrom (held + 1) (some p) bs
    | none => held + bs.length + 1

/-- The number of bytes from the first one on that no character accounts for. -/
def brokenLength (bs : Bytes) : Nat := brokenFrom 0 none bs

/-- The character that stands for bytes that are not text. -/
def replacement : Char := '\uFFFD'

/-- The characters read so far, latest first, and the one being read. -/
structure Lossy where
  done : List Char
  pending : Option Partial

/-- Reads a byte that does not continue a character. -/
def Lossy.start (done : List Char) (b : UInt8) : Lossy :=
  if b < 0x80 then ⟨Char.ofNat b.toNat :: done, none⟩
  else match Partial.ofLead? b with
    | some p => ⟨done, some p⟩
    | none => ⟨replacement :: done, none⟩

/-- Reads one more byte. -/
def Lossy.step (r : Lossy) (b : UInt8) : Lossy :=
  match r.pending with
  | none => Lossy.start r.done b
  | some p =>
    match p.step? b with
    | some (.inl c) => ⟨c :: r.done, none⟩
    | some (.inr p) => ⟨r.done, some p⟩
    | none => Lossy.start (replacement :: r.done) b

/-- The text that the bytes hold, with replacement characters where they are
not UTF-8. -/
def ofUtf8Lossy (bs : Bytes) : String :=
  match ofUtf8? bs with
  | some s => s
  | none =>
    let r := bs.foldl Lossy.step ⟨[], none⟩
    String.ofList (if r.pending.isSome then replacement :: r.done else r.done).reverse

theorem ofUtf8Lossy_utf8 (s : String) : ofUtf8Lossy (utf8 s) = s := by
  simp [ofUtf8Lossy, ofUtf8?_utf8]

end Text

end SessionWatch
