/-
# Numbers and dates of TOML

An integer has 64 bits with a sign; a number with a point or an exponent is a
double. Dates and times of day are checked and not used any further.

Key definitions: `Toml.readInteger?`, `Toml.readDouble?`, `Toml.readMoment?`.
-/
import SessionWatch.Json.Value
import SessionWatch.Time.Date
import SessionWatch.Toml.Text

namespace SessionWatch.Toml

def isDigit (c : Char) : Bool := '0' ≤ c && c ≤ '9'

/-- Digits with single underscores between them; `none` if they start with no digit, or if an
underscore has no digit behind it. -/
def readDigits? (digit : Char → Bool) (acc : List Char) : List Char → Read (List Char)
  | [] => if acc.isEmpty then none else some (acc.reverse, [])
  | c :: cs =>
    if digit c then readDigits? digit (c :: acc) cs
    else if acc.isEmpty then none
    else if c = '_' then
      match cs with
      | [] => none
      | d :: rest => if digit d then readDigits? digit (d :: acc) rest else none
    else some (acc.reverse, c :: cs)

def valueOf (base : Nat) (digits : List Char) : Nat :=
  digits.foldl (fun a c => a * base + (hexValue? c).getD 0) 0

/-- The digits of a decimal integer, which start with zero only if that is all. -/
def readDecimal? (cs : List Char) : Read (List Char) :=
  match cs with
  | '0' :: rest => some (['0'], rest)
  | cs => readDigits? isDigit [] cs

/-- A sign, if there is one: whether it is a minus. -/
def readSign : List Char → Bool × List Char
  | '-' :: cs => (true, cs)
  | '+' :: cs => (false, cs)
  | cs => (false, cs)

/-- An integer that fits 64 bits. -/
def fitting? (z : Int) (rest : List Char) : Read Json :=
  if -(Nat.pow 2 63 : Int) ≤ z ∧ z < (Nat.pow 2 63 : Int) then some (.number (.int z), rest)
  else none

def readInteger? (cs : List Char) : Read Json :=
  match cs with
  | '0' :: 'x' :: cs =>
    match readDigits? (fun c => (hexValue? c).isSome) [] cs with
    | none => none
    | some (ds, rest) => fitting? (valueOf 16 ds) rest
  | '0' :: 'o' :: cs =>
    match readDigits? (fun c => '0' ≤ c && c ≤ '7') [] cs with
    | none => none
    | some (ds, rest) => fitting? (valueOf 8 ds) rest
  | '0' :: 'b' :: cs =>
    match readDigits? (fun c => c = '0' || c = '1') [] cs with
    | none => none
    | some (ds, rest) => fitting? (valueOf 2 ds) rest
  | cs =>
    let (negative, cs) := readSign cs
    match readDecimal? cs with
    | none => none
    | some (ds, rest) =>
      let n : Int := valueOf 10 ds
      fitting? (if negative then -n else n) rest

/-! ## Doubles -/

/-- The double nearest to `digits · 10 ^ exponent`; beyond all doubles that is infinity. -/
def nearest (digits : List Char) (exponent : Int) : Float :=
  let digits := digits.dropWhile (· = '0')
  let magnitude := digits.length + exponent
  if digits.isEmpty ∨ magnitude < -400 then 0
  else if 400 < magnitude then 1 / 0
  else Float.ofScientific (valueOf 10 digits) (decide (exponent < 0)) exponent.natAbs

/-- An exponent, from its letter on. -/
def readExponent? : List Char → Read Int
  | c :: cs =>
    if c = 'e' ∨ c = 'E' then
      let (negative, cs) := readSign cs
      (readDigits? isDigit [] cs).map fun (ds, rest) =>
        let n : Int := valueOf 10 ds
        (if negative then -n else n, rest)
    else none
  | [] => none

/-- What is behind the integer part of a double: the digits after the point, and the exponent. -/
def readFraction? : List Char → Read (List Char × Int)
  | '.' :: cs =>
    match readDigits? isDigit [] cs with
    | none => none
    | some (ds, rest) =>
      match rest with
      | 'e' :: _ | 'E' :: _ => (readExponent? rest).map fun (e, rest) => ((ds, e), rest)
      | rest => some ((ds, 0), rest)
  | cs => (readExponent? cs).map fun (e, rest) => (([], e), rest)

/-- A word that names a double. -/
def readNamed? : List Char → Read Float
  | 'i' :: 'n' :: 'f' :: rest => some (1 / 0, rest)
  | 'n' :: 'a' :: 'n' :: rest => some (0 / 0, rest)
  | _ => none

/-- A double; one that is too large for a number is refused unless it is negative. -/
def readDouble? (cs : List Char) : Read Json :=
  let (negative, cs) := readSign cs
  let signed (x : Float) : Json := .number (.double (if negative then -x else x))
  match readNamed? cs, readDecimal? cs with
  | some (x, rest), _ => some (signed x, rest)
  | none, none => none
  | none, some (whole, rest) =>
    match readFraction? rest with
    | none => none
    | some ((fraction, exponent), rest) =>
      let x := nearest (whole ++ fraction) (exponent - fraction.length)
      if x.isInf ∧ ¬ negative then none else some (signed x, rest)

/-! ## Dates and times -/

/-- A number of exactly `width` digits within bounds. -/
def readField? (width least most : Nat) (cs : List Char) : Read Nat :=
  let ds := cs.take width
  let n := valueOf 10 ds
  if ds.length = width ∧ ds.all isDigit ∧ least ≤ n ∧ n ≤ most then some (n, cs.drop width)
  else none

/-- A number behind a mark. -/
def readFieldAfter? (mark : Char) (width least most : Nat) : List Char → Read Nat
  | [] => none
  | c :: cs => if c = mark then readField? width least most cs else none

/-- What is left after a calendar date. -/
def skipDate? (cs : List Char) : Option (List Char) := do
  let (year, cs) ← readField? 4 0 9999 cs
  let (month, cs) ← readFieldAfter? '-' 2 1 12 cs
  let (day, cs) ← readFieldAfter? '-' 2 1 31 cs
  if day ≤ Date.monthLength year month then some cs else none

/-- What is left after a time of day. -/
def skipTime? (cs : List Char) : Option (List Char) := do
  let (_, cs) ← readField? 2 0 23 cs
  let (_, cs) ← readFieldAfter? ':' 2 0 59 cs
  let (_, cs) ← readFieldAfter? ':' 2 0 60 cs
  match cs with
  | '.' :: d :: rest => if isDigit d then some (rest.dropWhile isDigit) else none
  | '.' :: [] => none
  | cs => some cs

/-- What is left after the distance from universal time, if there is one. -/
def skipOffset? (cs : List Char) : Option (List Char) :=
  match cs with
  | 'Z' :: rest | 'z' :: rest => some rest
  | '+' :: rest | '-' :: rest =>
    match readField? 2 0 23 rest with
    | none => none
    | some (_, rest) => (readFieldAfter? ':' 2 0 59 rest).map (·.2)
  | cs => some cs

/-- Whether a date starts here: no other value has a hyphen behind four digits. -/
def startsDate (cs : List Char) : Bool :=
  (cs.take 4).length = 4 && (cs.take 4).all isDigit && (cs.drop 4).head? = some '-'

/-- Whether a time of day starts here. -/
def startsTime (cs : List Char) : Bool := (readField? 2 0 23 cs).any fun r => r.2.head? = some ':'

/-- What is left after a date, a time of day or both. -/
def skipMoment? (cs : List Char) : Option (List Char) :=
  if startsDate cs then
    match skipDate? cs with
    | none => none
    | some rest =>
      match rest with
      | c :: time =>
        if (c = 'T' ∨ c = 't' ∨ c = ' ') ∧ startsTime time then
          (skipTime? time).bind skipOffset?
        else some rest
      | [] => some []
  else skipTime? cs

/-- A date or time. Read as a table, it has its text under a key that no setting uses. -/
def readMoment? (cs : List Char) : Read Json :=
  (skipMoment? cs).map fun rest =>
    (.object [("datetime",
      .string (String.ofList (cs.take (cs.length - rest.length))))], rest)

end SessionWatch.Toml
