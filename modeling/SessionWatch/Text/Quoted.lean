/-
# Quoted texts in messages

An error message quotes the text it complains about: between double quotes,
with a backslash before a quote or a backslash, the short escapes for tab,
line feed, carriage return and NUL, and a code point in braces for every other
character without a glyph.

Key definitions: `Text.quoted`.
-/
import SessionWatch.Text.Printable

namespace SessionWatch.Text

/-- The hexadecimal digits of a number, in lower case. -/
def hex (n : Nat) : List Char := Nat.toDigits 16 n

/-- The characters with a short escape: the character behind the backslash stands beside each. -/
def shortMarks : List (Char × Char) :=
  [('\t', 't'), ('\n', 'n'), ('\r', 'r'), ('\x00', '0'), ('"', '"'), ('\\', '\\')]

/-- What stands for a character between quotes. -/
def quotedChar (c : Char) : List Char :=
  match shortMarks.lookup c with
  | some mark => ['\\', mark]
  | none => if isEscaped c then ['\\', 'u', '\x7b'] ++ hex c.toNat ++ ['\x7d'] else [c]

/-- The text between double quotes, its special characters escaped. -/
def quoted (s : String) : String :=
  String.ofList ('"' :: s.toList.flatMap quotedChar ++ ['"'])

end SessionWatch.Text
