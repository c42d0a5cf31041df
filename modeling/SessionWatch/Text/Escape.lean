/-
# Escapes with a backslash

Programs that print texts know escapes such as `\n`; which of them, differs from
program to program. A number stands for the character of that number. What is no
escape is left as it is.

Key definitions: `Text.Escapes`, `Text.Escapes.expand`.
-/
import SessionWatch.Text.Utf8

namespace SessionWatch.Text

/-- The escapes that are known beside those of one letter. -/
structure Escapes where
  /-- `\0` stands in front of an octal number. -/
  zero : Bool := false
  /-- `\x` stands in front of a hexadecimal number. -/
  hex : Bool := false
  /-- `\u` and `\U` stand in front of code points, which are told by their numbers. -/
  unicode : Bool := false
  /-- A double quote has an escape. -/
  quotes : Bool := false
  /-- `\c` ends all that is printed. -/
  stop : Bool := false
  deriving DecidableEq

def octalDigit? (c : Char) : Option Nat :=
  if '0' ≤ c ∧ c ≤ '7' then some (c.toNat - '0'.toNat) else none

def hexDigit? (c : Char) : Option Nat :=
  if '0' ≤ c ∧ c ≤ '9' then some (c.toNat - '0'.toNat)
  else if 'a' ≤ c ∧ c ≤ 'f' then some (c.toNat - 'a'.toNat + 10)
  else if 'A' ≤ c ∧ c ≤ 'F' then some (c.toNat - 'A'.toNat + 10)
  else none

/-- The number that up to `max` digits write, and the characters behind them; none without a
digit. -/
def readDigits? (base max : Nat) (digit? : Char → Option Nat) (cs : List Char) :
    Option (Nat × List Char) :=
  let ds := (cs.take max).takeWhile fun c => (digit? c).isSome
  if ds.isEmpty then none
  else some (ds.foldl (fun n c => n * base + (digit? c).getD 0) 0, cs.drop ds.length)

/-- The letters behind a backslash that stand for one character, with that character. -/
def letterEscapes : List (Char × Char) :=
  [('a', '\x07'), ('b', '\x08'), ('e', '\x1b'), ('f', '\x0c'), ('n', '\n'), ('r', '\r'),
   ('t', '\t'), ('v', '\x0b'), ('\\', '\\')]

/-- What follows a backslash: the characters that it stands for and those behind it. -/
def Escapes.read? (k : Escapes) (cs : List Char) : Option (List Char × List Char) :=
  match cs with
  | [] => none
  | e :: rest =>
    match letterEscapes.lookup e, octalDigit? e with
    | some c, _ => some ([c], rest)
    | none, some d =>
      let digits := if k.zero ∧ d = 0 then rest else cs
      match readDigits? 8 3 octalDigit? digits with
      | some (n, rest) => some ([Char.ofNat (n % 256)], rest)
      | none => some (['\x00'], digits)
    | none, none =>
      if e = 'x' ∧ k.hex then
        (readDigits? 16 2 hexDigit? rest).map fun (n, rest) => ([Char.ofNat n], rest)
      else if (e = 'u' ∨ e = 'U') ∧ k.unicode then
        let width := if e = 'u' then 4 else 8
        (readDigits? 16 width hexDigit? rest).map fun (n, rest) =>
          let digits := (Nat.toDigits 16 n).map Char.toUpper
          let shown := if n < 65536 then 4 else 8
          (['\\', if n < 65536 then 'u' else 'U'] ++ List.replicate (shown - digits.length) '0'
            ++ digits, rest)
      else if e = '"' ∧ k.quotes then some ([e], rest)
      else none

/-- The characters of a text with its escapes replaced, put before those of `acc`, which has the
latest one first. Where everything ends the second part is false. -/
def Escapes.expandFrom (k : Escapes) : (fuel : Nat) → (acc : List Char) → List Char →
    List Char × Bool
  | 0, acc, _ | _, acc, [] => (acc, true)
  | fuel + 1, acc, c :: cs =>
    if c ≠ '\\' then k.expandFrom fuel (c :: acc) cs
    else if k.stop ∧ cs.head? = some 'c' then (acc, false)
    else match k.read? cs with
      | some (out, rest) => k.expandFrom fuel (out.reverse ++ acc) rest
      | none => k.expandFrom fuel ('\\' :: acc) cs

/-- A text with its escapes replaced, and whether anything may follow it. -/
def Escapes.expand (k : Escapes) (s : String) : String × Bool :=
  let (acc, more) := k.expandFrom s.length [] s.toList
  (String.ofList acc.reverse, more)

end SessionWatch.Text
