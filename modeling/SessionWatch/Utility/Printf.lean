/-
# Formatted printing

A format is printed with its escapes and directives replaced, once more as long
as arguments are left that it takes. A missing argument is empty, or zero.

Key definitions: `Utility.Directive`, `Utility.Printf`, `Utility.Printf.print`.
-/
import SessionWatch.Decimal.Shortest
import SessionWatch.Text.Escape
import SessionWatch.Utility.Basic

namespace SessionWatch.Utility

/-- A directive of a format, such as `%-5.2f`. -/
structure Directive where
  flags : List Char := []
  width : Nat := 0
  precision : Option Nat := none
  letter : Char

namespace Directive

def has (d : Directive) (flag : Char) : Bool := d.flags.contains flag

/-- Fills a text up to the width. -/
def fill (d : Directive) (text : String) : String :=
  if d.has '-' then text ++ String.ofList (List.replicate (d.width - text.length) ' ')
  else padLeft d.width ' ' text

/-- Fills a number, which has a sign or the sign of a base in front, up to the width. -/
def fillNumber (d : Directive) (zeros : Bool) (sign digits : String) : String :=
  if d.has '0' ∧ ¬ d.has '-' ∧ zeros then
    sign ++ padLeft (d.width - sign.length) '0' digits
  else d.fill (sign ++ digits)

/-- The sign of a number. -/
def sign (d : Directive) (negative : Bool) : String :=
  if negative then "-" else if d.has '+' then "+" else if d.has ' ' then " " else ""

def upper (s : String) : String := s.map Char.toUpper

/-- The digits of a number in a base, with at least as many as the precision says. -/
def digits (d : Directive) (base n : Nat) : String :=
  let text := String.ofList (Nat.toDigits base n)
  match d.precision with
  | some p => if p = 0 ∧ n = 0 then "" else padLeft p '0' text
  | none => text

/-- A number of 64 bits. -/
def printInteger (d : Directive) (z : Int) : String :=
  let free := d.precision.isNone
  let word := (z % (Nat.pow 2 64 : Nat)).toNat
  match d.letter with
  | 'd' | 'i' => d.fillNumber free (d.sign (z < 0)) (d.digits 10 z.natAbs)
  | 'u' => d.fillNumber free "" (d.digits 10 word)
  | 'o' =>
    let text := d.digits 8 word
    d.fillNumber free "" (if d.has '#' ∧ text.toList.head? ≠ some '0' then "0" ++ text else text)
  | 'X' => d.fillNumber free (if d.has '#' ∧ word ≠ 0 then "0X" else "") (upper (d.digits 16 word))
  | _ => d.fillNumber free (if d.has '#' ∧ word ≠ 0 then "0x" else "") (d.digits 16 word)

/-- The nearest integer to a fraction, the even one of two as near. -/
def nearest (num den : Nat) : Nat :=
  let q := num / den
  let rest := 2 * (num % den)
  if rest < den then q else if den < rest then q + 1 else q + q % 2

/-- A number with this many places behind the point. -/
def places (x : Decimal.Ratio) (count : Nat) : String :=
  let n := nearest (x.num * Nat.pow 10 count) x.den
  let whole := toString (n / Nat.pow 10 count)
  if count = 0 then whole
  else whole ++ "." ++ padLeft count '0' (toString (n % Nat.pow 10 count))

/-- The significand and the exponent of ten of a number, of which `count` places are shown. -/
def scientific (x : Decimal.Ratio) (count : Nat) : Nat × Int :=
  if x.num = 0 then (0, 0)
  else
    let e := Decimal.magnitude x 800 (-400) - 1
    let digitsAt := fun (e : Int) =>
      let unit := Decimal.Ratio.scaled 1 10 (e - count)
      nearest (x.num * unit.den) (x.den * unit.num)
    if digitsAt e < Nat.pow 10 (count + 1) then (digitsAt e, e) else (digitsAt (e + 1), e + 1)

/-- A number with one digit before the point and an exponent. -/
def exponential (x : Decimal.Ratio) (count : Nat) : String :=
  let (n, e) := scientific x count
  let ds := padLeft (count + 1) '0' (toString n)
  (ds.take 1).toString ++ (if count = 0 then "" else "." ++ (ds.drop 1).toString)
    ++ (if e < 0 then "e-" else "e+") ++ padLeft 2 '0' (toString e.natAbs)

/-- A text of digits without zeros at the end of its places. -/
def trimZeros (s : String) : String :=
  let (front, back) := (s.toList.takeWhile (· ≠ 'e'), s.toList.dropWhile (· ≠ 'e'))
  if front.contains '.' then
    let cs := front.reverse.dropWhile (· = '0')
    String.ofList ((if cs.head? = some '.' then cs.drop 1 else cs).reverse ++ back)
  else s

/-- A number in the shorter of the two forms. -/
def general (x : Decimal.Ratio) (precision : Nat) (keep : Bool) : String :=
  let p := max precision 1
  let (_, e) := scientific x (p - 1)
  let text :=
    if -4 ≤ e ∧ e < p then places x ((p : Int) - 1 - e).toNat else exponential x (p - 1)
  if keep then text else trimZeros text

/-- A double. -/
def printDouble (d : Directive) (x : Float) : String :=
  if x.isInf ∨ x.isNaN then
    let text := if x.isInf then "inf" else "nan"
    let negative := 0x8000000000000000 ≤ x.toBits
    ({ d with flags := d.flags.filter (· ≠ '0') } : Directive).fillNumber true (d.sign negative)
      (if d.letter.isUpper then upper text else text)
  else
  let b := Decimal.Binary.ofBits x.toBits
  let r := Decimal.Ratio.scaled b.significand 2 b.exponent
  let p := d.precision.getD 6
  let text := match d.letter with
    | 'f' | 'F' => places r p
    | 'e' | 'E' => exponential r p
    | _ => general r p (d.has '#')
  let text := if d.letter.isUpper then upper text else text
  d.fillNumber true (d.sign (x < 0)) text

end Directive

/-- Why an argument is no number. -/
inductive Flaw where
  | noNumber
  /-- Something follows the number. -/
  | partly
  | tooLarge
  deriving DecidableEq

/-- The arguments of a print that are left, and those that were to be numbers and are not, the
latest first. -/
structure Printf where
  args : List String
  flaws : List (String × Flaw) := []
  /-- Nothing more is printed. -/
  ended : Bool := false

namespace Printf

/-- Takes note of an argument that was to be a number. -/
def check (p : Printf) (text : String) (whole : Bool) : Printf :=
  if whole then p
  else
    let begins := (text.toList.dropWhile fun c => c = ' ' || c = '-' || c = '+').head?.any
      Char.isDigit
    { p with flaws := (text, if begins then .partly else .noNumber) :: p.flaws }

/-- An integer in the range that a directive of this letter has. -/
def checkRange (p : Printf) (letter : Char) (text : String) (z : Int) : Int × Printf :=
  let most : Int := Nat.pow 2 63
  let (low, high) : Int × Int := if letter = 'd' ∨ letter = 'i' then (-most, most - 1)
    else (-(2 * most - 1), 2 * most - 1)
  if z < low then (low, { p with flaws := (text, .tooLarge) :: p.flaws })
  else if high < z then (high, { p with flaws := (text, .tooLarge) :: p.flaws })
  else (z, p)

def next (p : Printf) : Option String × Printf := (p.args.head?, { p with args := p.args.drop 1 })

/-- The number that a text begins with, and whether that is all. -/
def readInteger (s : String) : Int × Bool :=
  match s.toList with
  | [] => (0, true)
  | '"' :: c :: _ | '\'' :: c :: _ => (c.toNat, true)
  | cs =>
    let cs := cs.dropWhile fun c => c = ' ' || c = '\t' || c = '\n'
    let (negative, cs) : Bool × List Char := match cs with
      | '-' :: cs => (true, cs)
      | '+' :: cs => (false, cs)
      | cs => (false, cs)
    let read : Option (Nat × List Char) := match cs with
      | '0' :: 'x' :: ds | '0' :: 'X' :: ds => Text.readDigits? 16 400 Text.hexDigit? ds
      | '0' :: ds => some ((Text.readDigits? 8 400 Text.octalDigit? ds).getD (0, ds))
      | ds => Text.readDigits? 10 400
          (fun c => if c.isDigit then some (c.toNat - '0'.toNat) else none) ds
    match read with
    | none => (0, false)
    | some (n, rest) => (if negative then -(n : Int) else n, rest.isEmpty)

/-- The double that a text begins with, and whether that is all. -/
def readDouble (s : String) : Float × Bool :=
  match s.toList with
  | [] => (0, true)
  | '"' :: c :: _ | '\'' :: c :: _ => (Float.ofNat c.toNat, true)
  | cs =>
    let cs := cs.dropWhile fun c => c = ' ' || c = '\t' || c = '\n'
    let (negative, cs) : Bool × List Char := match cs with
      | '-' :: cs => (true, cs)
      | '+' :: cs => (false, cs)
      | cs => (false, cs)
    let whole := cs.takeWhile Char.isDigit
    let rest := cs.drop whole.length
    let part := match rest with
      | '.' :: ds => ds.takeWhile Char.isDigit
      | _ => []
    let rest := match rest with
      | '.' :: ds => ds.drop part.length
      | rest => rest
    let (e, rest) : Int × List Char := match rest with
      | 'e' :: ds | 'E' :: ds =>
        let (down, ds') : Bool × List Char := match ds with
          | '-' :: ds => (true, ds)
          | '+' :: ds => (false, ds)
          | ds => (false, ds)
        let es := ds'.takeWhile Char.isDigit
        if es.isEmpty then (0, rest)
        else (if down then -(digitsValue es : Int) else digitsValue es, ds'.drop es.length)
      | rest => (0, rest)
    if whole.isEmpty ∧ part.isEmpty then (0, false)
    else
      let e := e - part.length
      let x := Float.ofScientific (digitsValue (whole ++ part)) (e < 0) e.natAbs
      (if negative then -x else x, rest.isEmpty)

/-- What a directive prints; none if its letter is not known. -/
def convert? (escapes : Text.Escapes) (d : Directive) (p : Printf) : Option (String × Printf) :=
  if d.letter = '%' then some ("%", p)
  else
    let (arg, p) := p.next
    let text := arg.getD ""
    let cut := fun (s : String) => match d.precision with
      | some n => (s.take n).toString
      | none => s
    if d.letter = 's' then some (d.fill (cut text), p)
    else if d.letter = 'c' then some (d.fill (text.take 1).toString, p)
    else if d.letter = 'b' then
      let (text, more) := escapes.expand text
      some (d.fill (cut text), { p with ended := !more })
    else if "diouxX".toList.contains d.letter then
      let (z, whole) := readInteger text
      let (z, p) := (p.check text whole).checkRange d.letter text z
      some (d.printInteger z, p)
    else if "eEfFgG".toList.contains d.letter then
      let (x, whole) := readDouble text
      some (d.printDouble x, p.check text whole)
    else none

/-- A number in a directive, or the argument that gives it. -/
def readNumber (p : Printf) (cs : List Char) : Int × Printf × List Char :=
  match cs with
  | '*' :: cs =>
    let (arg, p) := p.next
    ((readInteger (arg.getD "")).1, p, cs)
  | cs =>
    let ds := cs.takeWhile Char.isDigit
    (digitsValue ds, p, cs.drop ds.length)

/-- A directive, from behind its percent sign on. -/
def readDirective? (p : Printf) (cs : List Char) : Option (Directive × Printf × List Char) :=
  let flags := cs.takeWhile fun c => "-+ #0".toList.contains c
  let (width, p, cs) := readNumber p (cs.drop flags.length)
  let flags := if width < 0 then '-' :: flags else flags
  let (precision, p, cs) : Option Nat × Printf × List Char := match cs with
    | '.' :: cs =>
      let (n, p, cs) := readNumber p cs
      (if n < 0 then none else some n.toNat, p, cs)
    | cs => (none, p, cs)
  match cs with
  | [] => none
  | letter :: cs => some (⟨flags, width.natAbs, precision, letter⟩, p, cs)

/-- How formats are read. -/
structure Style where
  /-- The escapes of a format. -/
  format : Text.Escapes
  /-- The escapes of an argument of `%b`. -/
  argument : Text.Escapes

/-- One run through a format; the last part says whether it came to its end. -/
def pass (style : Style) : (fuel : Nat) → (acc : List String) → List Char → Printf →
    List String × Printf × Bool
  | 0, acc, _, p | _, acc, [], p => (acc, p, true)
  | fuel + 1, acc, c :: cs, p =>
    if p.ended then (acc, p, true)
    else if c = '%' then
      match readDirective? p cs with
      | none => (acc, p, false)
      | some (d, p, rest) =>
        match convert? style.argument d p with
        | none => (acc, p, false)
        | some (text, p) => pass style fuel (text :: acc) rest p
    else if c = '\\' then
      if style.format.stop ∧ cs.head? = some 'c' then (acc, { p with ended := true }, true)
      else match style.format.read? cs with
        | some (out, rest) => pass style fuel (String.ofList out :: acc) rest p
        | none => pass style fuel ("\\" :: acc) cs p
    else pass style fuel (String.singleton c :: acc) cs p

/-- Runs through a format as long as it takes arguments; the last part is false if a directive
is not known. -/
def runs (style : Style) (format : String) : (fuel : Nat) → (acc : List String) → Printf →
    List String × Printf × Bool
  | 0, acc, p => (acc, p, true)
  | fuel + 1, acc, p =>
    match pass style (format.length + 1) acc format.toList p with
    | (acc, q, true) =>
      if q.ended ∨ q.args.isEmpty ∨ q.args.length = p.args.length then (acc, q, true)
      else runs style format fuel acc q
    | r => r

/-- What is printed, the arguments that are no numbers, and whether every directive was known. -/
def print (style : Style) (format : String) (args : List String) :
    String × List (String × Flaw) × Bool :=
  let (acc, p, known) := runs style format (args.length + 1) [] { args := args }
  (String.join acc.reverse, p.flaws.reverse, known)

end Printf

end SessionWatch.Utility
