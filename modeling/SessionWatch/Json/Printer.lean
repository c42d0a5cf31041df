/-
# Writing JSON

On the wire a value is written without space: a line never holds a control
character, because texts escape them. A settings file is written with one item
or member a line and two blanks for each level. Characters beyond ASCII and
the slash stand for themselves.

Key definitions: `Json.quoteChars`, `Json.pushValue`, `Json.compact`,
`Json.pretty`.
-/
import SessionWatch.Json.Fault
import SessionWatch.Json.Value

namespace SessionWatch.Json

/-- The characters whose escape is a backslash and one more character, which stands beside. -/
def shortEscapes : List (Char × Char) :=
  [('"', '"'), ('\\', '\\'), ('\n', 'n'), ('\r', 'r'), ('\t', 't'), ('\x08', 'b'), ('\x0c', 'f')]

/-- The characters that stand for one character of a text. -/
def escapeChar (c : Char) : List Char :=
  match shortEscapes.lookup c with
  | some mark => ['\\', mark]
  | none =>
    if c.toNat < 0x20 then
      ['\\', 'u', '0', '0', if c.toNat < 0x10 then '0' else '1', Nat.digitChar (c.toNat % 16)]
    else [c]

/-- A text between quotes. -/
def quoteChars (s : String) : List Char := '"' :: s.toList.flatMap escapeChar ++ ['"']

def Number.text : Number → String
  | .int z => toString z
  | .double x => doubleLayout.double x

/-- Puts characters behind those of `acc`, which has the latest first. -/
def push (cs acc : List Char) : List Char := cs.reverseAux acc

mutual

/-- Puts the characters of a value behind those of `acc`, which has the latest first. -/
def pushValue (acc : List Char) : Json → List Char
  | .null => push ['n', 'u', 'l', 'l'] acc
  | .bool b => push (if b then ['t', 'r', 'u', 'e'] else ['f', 'a', 'l', 's', 'e']) acc
  | .number n => push n.text.toList acc
  | .string s => push (quoteChars s) acc
  | .array [] => push ['[', ']'] acc
  | .array (v :: vs) => ']' :: pushItems (pushValue ('[' :: acc) v) vs
  | .object [] => push ['{', '}'] acc
  | .object ((k, v) :: ms) =>
    '}' :: pushMembers (pushValue (':' :: push (quoteChars k) ('{' :: acc)) v) ms
termination_by structural v => v

/-- The items of a list after its first one. -/
def pushItems (acc : List Char) : List Json → List Char
  | [] => acc
  | v :: vs => pushItems (pushValue (',' :: acc) v) vs
termination_by structural vs => vs

/-- The members of an object after its first one. -/
def pushMembers (acc : List Char) : List (String × Json) → List Char
  | [] => acc
  | (k, v) :: ms => pushMembers (pushValue (':' :: push (quoteChars k) (',' :: acc)) v) ms
termination_by structural ms => ms

end

/-- A value in one line. -/
def compact (v : Json) : String := String.ofList (pushValue [] v).reverse

/-- A new line with two blanks for each level. -/
def pushLine (level : Nat) (acc : List Char) : List Char :=
  List.replicate (2 * level) ' ' ++ '\n' :: acc

mutual

/-- Puts the characters of a value over several lines behind those of `acc`. -/
def pushPretty (level : Nat) (acc : List Char) : Json → List Char
  | .array [] => push ['[', ']'] acc
  | .array (v :: vs) =>
    ']' :: pushLine level
      (prettyItems level (pushPretty (level + 1) (pushLine (level + 1) ('[' :: acc)) v) vs)
  | .object [] => push ['{', '}'] acc
  | .object ((k, v) :: ms) =>
    '}' :: pushLine level (prettyMembers level
      (pushPretty (level + 1)
        (' ' :: ':' :: push (quoteChars k) (pushLine (level + 1) ('{' :: acc))) v) ms)
  | v => pushValue acc v
termination_by structural v => v

def prettyItems (level : Nat) (acc : List Char) : List Json → List Char
  | [] => acc
  | v :: vs => prettyItems level (pushPretty (level + 1) (pushLine (level + 1) (',' :: acc)) v) vs
termination_by structural vs => vs

def prettyMembers (level : Nat) (acc : List Char) : List (String × Json) → List Char
  | [] => acc
  | (k, v) :: ms =>
    prettyMembers level (pushPretty (level + 1)
      (' ' :: ':' :: push (quoteChars k) (pushLine (level + 1) (',' :: acc))) v) ms
termination_by structural ms => ms

end

/-- A value over several lines. -/
def pretty (v : Json) : String := String.ofList (pushPretty 0 [] v).reverse

end SessionWatch.Json
