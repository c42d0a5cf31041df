/-
# The end and the beginning of a text

A classifier sees the end of a message, a log line shows the beginning of an
output. Both count characters.

Key definitions: `Text.tail`, `Text.snippet`.
Key theorems: `Text.length_tailChars`, `Text.tailChars_isSuffix`.
-/

namespace SessionWatch.Text

/-- The last `max` characters, or all of them if there are no more. -/
def tailChars (cs : List Char) (max : Nat) : List Char := cs.drop (cs.length - max)

/-- The end of a text, of at most `max` characters. -/
def tail (s : String) (max : Nat) : String := String.ofList (tailChars s.toList max)

theorem length_tailChars (cs : List Char) (max : Nat) :
    (tailChars cs max).length = min max cs.length := by
  simp [tailChars]; omega

theorem tailChars_isSuffix (cs : List Char) (max : Nat) : tailChars cs max <:+ cs :=
  List.drop_suffix _ _

theorem toList_tail (s : String) (max : Nat) : (tail s max).toList = tailChars s.toList max := by
  simp [tail]

/-- The first `max` characters, followed by an ellipsis when any are left out. -/
def snippet (s : String) (max : Nat) : String :=
  let cs := s.toList
  if cs.length ≤ max then s else String.ofList (cs.take max) ++ "..."

end SessionWatch.Text
