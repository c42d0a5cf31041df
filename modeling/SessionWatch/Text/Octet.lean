/-
# Bytes as characters

Some programs see text as bytes only. For them a byte is written as the
character of its number, so that lengths, cuts and patterns count bytes, and
every sequence of bytes is a text.

Key definitions: `Text.ofBytes`, `Text.toBytes`, `Text.octets`.
Key theorems: `Text.toBytes_ofBytes`.
-/
import SessionWatch.Text.Utf8

namespace SessionWatch.Text

/-- The text whose characters are these bytes. -/
def ofBytes (bs : Bytes) : String := String.ofList (bs.map fun b => Char.ofNat b.toNat)

/-- The bytes that the characters of a text stand for. -/
def toBytes (s : String) : Bytes := s.toList.map fun c => UInt8.ofNat c.toNat

/-- A text as a program sees it that knows bytes only. -/
def octets (s : String) : String := ofBytes (utf8 s)

theorem ofNat_toNat_char (b : UInt8) : UInt8.ofNat (Char.ofNat b.toNat).toNat = b := by
  have h : b.toNat.isValidChar := Or.inl (by have := b.toNat_lt; omega)
  rw [Char.ofNat, dif_pos h]
  exact UInt8.ofNat_toNat

theorem toBytes_ofBytes (bs : Bytes) : toBytes (ofBytes bs) = bs := by
  simp only [toBytes, ofBytes, String.toList_ofList, List.map_map]
  exact (List.map_congr_left fun b _ => ofNat_toNat_char b).trans (List.map_id _)

end SessionWatch.Text
