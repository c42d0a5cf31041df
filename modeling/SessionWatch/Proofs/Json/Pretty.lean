/-
# The bytes of a value over several lines

What a value is in the layout of a settings file, as bytes and by plain
recursion: `Json.prettyBytes` gives the same bytes as `Json.pretty`, which
builds its text backwards. Between the tokens there is space that the value in
one line does not have, so it is not shorter.

Key definitions: `Json.newLine`, `Json.prettyBytes`.
Key theorems: `Json.utf8_pretty`, `Json.length_bytes_le_pretty`.
-/
import SessionWatch.Proofs.Json.Bytes

namespace SessionWatch.Json

open Text

/-- A line feed, and two blanks for each level. -/
def newLine (level : Nat) : Bytes := 0x0A :: List.replicate (2 * level) 0x20

mutual

/-- The bytes of a value that begins at a level. -/
def prettyBytes (level : Nat) : Json → Bytes
  | .array [] => [0x5B, 0x5D]
  | .array (v :: vs) =>
    0x5B :: (newLine (level + 1) ++ (prettyBytes (level + 1) v ++ prettyItemsLeft level vs))
  | .object [] => [0x7B, 0x7D]
  | .object ((k, v) :: ms) =>
    0x7B :: (newLine (level + 1) ++ (quotedBytes k ++
      0x3A :: 0x20 :: (prettyBytes (level + 1) v ++ prettyMembersLeft level ms)))
  | v => bytes v
termination_by structural v => v

/-- The bytes of a list after its first item. -/
def prettyItemsLeft (level : Nat) : List Json → Bytes
  | [] => newLine level ++ [0x5D]
  | v :: vs =>
    0x2C :: (newLine (level + 1) ++ (prettyBytes (level + 1) v ++ prettyItemsLeft level vs))
termination_by structural vs => vs

/-- The bytes of an object after its first member. -/
def prettyMembersLeft (level : Nat) : List (String × Json) → Bytes
  | [] => newLine level ++ [0x7D]
  | (k, v) :: ms =>
    0x2C :: (newLine (level + 1) ++ (quotedBytes k ++
      0x3A :: 0x20 :: (prettyBytes (level + 1) v ++ prettyMembersLeft level ms)))
termination_by structural ms => ms

end

/-! ### The text that is built backwards -/

theorem encode_replicate_blank : ∀ n, encode (List.replicate n ' ') = List.replicate n 0x20
  | 0 => rfl
  | n + 1 => by
    rw [List.replicate_succ, encode_cons, encode_replicate_blank n]
    rfl

theorem encode_pushLine (level : Nat) (acc : List Char) :
    encode (pushLine level acc).reverse = encode acc.reverse ++ newLine level := by
  have feed : String.utf8EncodeChar '\n' = [0x0A] := rfl
  simp [pushLine, newLine, feed, encode_replicate_blank]

/-- A key on a line of its own, up to its value. -/
theorem encode_pushKey (level : Nat) (k : String) (acc : List Char) :
    encode (' ' :: ':' :: push (quoteChars k) (pushLine level acc)).reverse =
      encode acc.reverse ++ (newLine level ++ (quotedBytes k ++ [0x3A, 0x20])) := by
  rw [encode_reverse_cons (b := 0x20) rfl, encode_reverse_cons (b := 0x3A) rfl, encode_push,
    encode_quoteChars, encode_pushLine]
  simp

mutual

theorem encode_pushPretty : ∀ (v : Json) (level : Nat) (acc : List Char),
    encode (pushPretty level acc v).reverse = encode acc.reverse ++ prettyBytes level v
  | .null, _, acc | .bool _, _, acc | .number _, _, acc | .string _, _, acc =>
    encode_pushValue _ acc
  | .array [], _, acc => encode_push _ acc
  | .array (v :: vs), level, acc => by
    rw [pushPretty, encode_reverse_cons (b := 0x5D) rfl, encode_pushLine, List.append_assoc,
      encode_prettyItems vs, encode_pushPretty v, encode_pushLine,
      encode_reverse_cons (b := 0x5B) rfl, prettyBytes]
    simp
  | .object [], _, acc => encode_push _ acc
  | .object ((k, v) :: ms), level, acc => by
    rw [pushPretty, encode_reverse_cons (b := 0x7D) rfl, encode_pushLine, List.append_assoc,
      encode_prettyMembers ms, encode_pushPretty v, encode_pushKey,
      encode_reverse_cons (b := 0x7B) rfl, prettyBytes]
    simp

theorem encode_prettyItems : ∀ (vs : List Json) (level : Nat) (acc : List Char),
    encode (prettyItems level acc vs).reverse ++ (newLine level ++ [0x5D]) =
      encode acc.reverse ++ prettyItemsLeft level vs
  | [], _, acc => rfl
  | v :: vs, level, acc => by
    rw [prettyItems, encode_prettyItems vs, encode_pushPretty v, encode_pushLine,
      encode_reverse_cons (b := 0x2C) rfl, prettyItemsLeft]
    simp

theorem encode_prettyMembers : ∀ (ms : List (String × Json)) (level : Nat) (acc : List Char),
    encode (prettyMembers level acc ms).reverse ++ (newLine level ++ [0x7D]) =
      encode acc.reverse ++ prettyMembersLeft level ms
  | [], _, acc => rfl
  | (k, v) :: ms, level, acc => by
    rw [prettyMembers, encode_prettyMembers ms, encode_pushPretty v, encode_pushKey,
      encode_reverse_cons (b := 0x2C) rfl, prettyMembersLeft]
    simp

end

/-- **The bytes of a value over several lines.** -/
theorem utf8_pretty (v : Json) : utf8 v.pretty = v.prettyBytes 0 := by
  rw [pretty, utf8_eq_encode, String.toList_ofList, encode_pushPretty]
  rfl

/-! ### What one line is to several -/

/-- A value begins with the same byte in either layout. -/
theorem head?_prettyBytes (level : Nat) : ∀ v : Json, (v.prettyBytes level).head? = v.bytes.head?
  | .null | .bool _ | .number _ | .string _ => rfl
  | .array [] | .array (_ :: _) => rfl
  | .object [] | .object (_ :: _) => rfl

mutual

/-- **A value is not longer in one line than over several.** -/
theorem length_bytes_le_pretty : ∀ (v : Json) (level : Nat),
    v.bytes.length ≤ (v.prettyBytes level).length
  | .null, _ | .bool _, _ | .number _, _ | .string _, _ => Nat.le_refl _
  | .array [], _ | .object [], _ => Nat.le_refl _
  | .array (v :: vs), level => by
    have first := length_bytes_le_pretty v (level + 1)
    have later := length_restOfItems_le_pretty vs level
    simp only [bytes, prettyBytes, List.length_cons, List.length_append]
    omega
  | .object ((k, v) :: ms), level => by
    have first := length_bytes_le_pretty v (level + 1)
    have later := length_restOfMembers_le_pretty ms level
    simp only [bytes, prettyBytes, List.length_cons, List.length_append]
    omega

theorem length_restOfItems_le_pretty : ∀ (vs : List Json) (level : Nat),
    (restOfItems vs).length ≤ (prettyItemsLeft level vs).length
  | [], level => by
    rw [prettyItemsLeft, List.length_append]
    exact Nat.le_add_left _ _
  | v :: vs, level => by
    have first := length_bytes_le_pretty v (level + 1)
    have later := length_restOfItems_le_pretty vs level
    simp only [restOfItems, prettyItemsLeft, List.length_cons, List.length_append]
    omega

theorem length_restOfMembers_le_pretty : ∀ (ms : List (String × Json)) (level : Nat),
    (restOfMembers ms).length ≤ (prettyMembersLeft level ms).length
  | [], level => by
    rw [prettyMembersLeft, List.length_append]
    exact Nat.le_add_left _ _
  | (k, v) :: ms, level => by
    have first := length_bytes_le_pretty v (level + 1)
    have later := length_restOfMembers_le_pretty ms level
    simp only [restOfMembers, prettyMembersLeft, List.length_cons, List.length_append]
    omega

end

end SessionWatch.Json
