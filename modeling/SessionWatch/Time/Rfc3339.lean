/-
# Dates and times as text

An instant is written in universal time, `2024-01-01T00:00:00Z`, with as many
places of the second as it needs: none, three, six or nine. Reading is more
liberal: blanks between the parts, a blank or a small `t` between date and
time, one digit for a month, an offset with or without its colon.

Key definitions: `Instant.text`, `Instant.parse`, `Instant.Fault`.
-/
import SessionWatch.Time.Instant
import SessionWatch.Text.Blank

namespace SessionWatch.Instant

/-! ## Writing -/

/-- A number with zeros in front, at least `width` digits. -/
def padded (width n : Nat) : List Char :=
  let ds := (Nat.repr n).toList
  List.replicate (width - ds.length) '0' ++ ds

/-- Years beyond four digits, and those before year zero, have a sign. -/
def yearText (year : Int) : List Char :=
  if 0 ≤ year ∧ year ≤ 9999 then padded 4 year.toNat
  else (if year < 0 then '-' else '+') :: padded 4 year.natAbs

/-- The places of a second, as few groups of three as they need. -/
def fractionText (nano : Nat) : List Char :=
  if nano = 0 then []
  else if nano % 1000000 = 0 then '.' :: padded 3 (nano / 1000000)
  else if nano % 1000 = 0 then '.' :: padded 6 (nano / 1000)
  else '.' :: padded 9 nano

/-- The characters of the written form. -/
def chars (t : Instant) : List Char :=
  let leap := if 1000000000 ≤ t.nano then 1 else 0
  yearText t.date.year ++ '-' :: padded 2 t.date.month ++ '-' :: padded 2 t.date.day
    ++ 'T' :: padded 2 (t.second / 3600) ++ ':' :: padded 2 (t.second / 60 % 60)
    ++ ':' :: padded 2 (t.second % 60 + leap) ++ fractionText (t.nano - leap * 1000000000) ++ ['Z']

/-- The text of a point in time. -/
def text (t : Instant) : String := String.ofList t.chars

/-! ## Reading -/

/-- Why a text is no point in time. -/
inductive Fault where
  | tooShort
  | invalid
  | outOfRange
  | tooLong
  | impossible

def Fault.message : Fault → String
  | .tooShort => "premature end of input"
  | .invalid => "input contains invalid characters"
  | .outOfRange => "input is out of range"
  | .tooLong => "trailing input"
  | .impossible => "no possible date and time matching input"

/-- What was read and the characters left. -/
abbrev Read (α : Type) := Except Fault (α × List Char)

def decimal (ds : List Char) : Nat := ds.foldl (fun n d => n * 10 + (d.toNat - 48)) 0

/-- At least one digit, at most `max` if that is given. -/
def readDigits (max : Option Nat) (cs : List Char) : Read (List Char) :=
  match cs with
  | [] => .error .tooShort
  | c :: _ =>
    if c.isDigit then
      let ds := (match max with | some n => cs.take n | none => cs).takeWhile Char.isDigit
      .ok (ds, cs.drop ds.length)
    else .error .invalid

/-- A number of at most two digits that does not exceed its bounds. -/
def readPart (low high : Nat) (cs : List Char) : Read Nat :=
  match readDigits (some 2) (Text.dropBlanks cs) with
  | .error f => .error f
  | .ok (ds, rest) =>
    let n := decimal ds
    if low ≤ n ∧ n ≤ high then .ok (n, rest) else .error .outOfRange

/-- A character that has to come next, after blanks. -/
def readMark (mark : Char) (cs : List Char) : Except Fault (List Char) :=
  match Text.dropBlanks cs with
  | [] => .error .tooShort
  | c :: rest => if c = mark then .ok rest else .error .invalid

/-- A year beyond these is in no date. -/
def yearBound : Nat := Nat.pow 2 31

/-- A year: four digits, or a sign and any number of them. -/
def readYear (cs : List Char) : Read Int :=
  let signed (sign : Int) (rest : List Char) : Read Int :=
    match readDigits none rest with
    | .error f => .error f
    | .ok (ds, rest) =>
      let n := decimal ds
      if n < yearBound ∨ (sign = -1 ∧ n = yearBound) then .ok (sign * n, rest)
      else .error .outOfRange
  match Text.dropBlanks cs with
  | '-' :: rest => signed (-1) rest
  | '+' :: rest => signed 1 rest
  | cs =>
    match readDigits (some 4) cs with
    | .error f => .error f
    | .ok (ds, rest) => .ok ((decimal ds : Int), rest)

/-- The places of a second, if there are any; beyond nine they are cut off. -/
def readFraction : List Char → Read Nat
  | '.' :: rest =>
    match readDigits (some 9) rest with
    | .error f => .error f
    | .ok (ds, rest) => .ok (decimal ds * Nat.pow 10 (9 - ds.length), rest.dropWhile Char.isDigit)
  | cs => .ok (0, cs)

/-- Between the hours and minutes of an offset. -/
def isOffsetGap (c : Char) : Bool := c = ':' || Text.isBlank c

def isSmallDigit (c : Char) : Bool := '0' ≤ c && c ≤ '5'

/-- The hours and minutes of an offset, in seconds. -/
def readOffsetTime (cs : List Char) : Read Int :=
  match cs with
  | a :: b :: rest =>
    if a.isDigit && b.isDigit then
      match rest.dropWhile isOffsetGap with
      | c :: d :: rest =>
        if isSmallDigit c && d.isDigit then
          .ok (decimal [a, b] * 3600 + decimal [c, d] * 60, rest)
        else if c.isDigit && d.isDigit then .error .outOfRange
        else .error .invalid
      | [c] => .error (if c.utf8Size < 2 then .tooShort else .invalid)
      | [] => .error .tooShort
    else .error .invalid
  | [c] => .error (if c.utf8Size < 2 then .tooShort else .invalid)
  | [] => .error .tooShort

/-- The offset from universal time, in seconds. -/
def readOffset (cs : List Char) : Read Int :=
  match cs with
  | [] => .error .tooShort
  | c :: rest =>
    if (cs.take 3).map Char.toUpper = ['U', 'T', 'C'] then .ok (0, cs.drop 3)
    else if c = 'Z' ∨ c = 'z' then .ok (0, rest)
    else if c = '+' then readOffsetTime rest
    else if c = '-' ∨ c = '\u2212' then
      (readOffsetTime rest).map fun p => (-p.1, p.2)
    else .error .invalid

/-- The years that dates have. -/
def firstYear : Int := -262143
def lastYear : Int := 262142

/-- The instant of a date and time shown by clocks with an offset. -/
def ofLocal (date : Date) (second nano : Nat) (offset : Int) : Except Fault Instant :=
  if ¬(firstYear ≤ date.year ∧ date.year ≤ lastYear ∧ date.IsValid) then .error .outOfRange
  else if ¬(-(dayLength : Int) < offset ∧ offset < dayLength) then .error .outOfRange
  else
    let t := Instant.east ⟨date, second, nano⟩ offset
    if firstYear ≤ t.date.year ∧ t.date.year ≤ lastYear then .ok t else .error .impossible

/-- The character between date and time. -/
def readSeparator : List Char → Except Fault (List Char)
  | [] => .error .tooShort
  | c :: rest => if c = 'T' ∨ c = 't' ∨ c = ' ' then .ok rest else .error .invalid

/-- Reads an instant from characters. -/
def ofChars (cs : List Char) : Except Fault Instant := do
  let (year, cs) ← readYear cs
  let cs ← readMark '-' cs
  let (month, cs) ← readPart 1 12 cs
  let cs ← readMark '-' cs
  let (day, cs) ← readPart 1 31 cs
  let cs ← readSeparator cs
  let (hour, cs) ← readPart 0 23 cs
  let cs ← readMark ':' cs
  let (minute, cs) ← readPart 0 59 cs
  let cs ← readMark ':' cs
  let (second, cs) ← readPart 0 60 cs
  let (fraction, cs) ← readFraction cs
  let (offset, cs) ← readOffset (Text.dropBlanks cs)
  if Text.dropBlanks cs ≠ [] then throw .tooLong
  let leap := if second = 60 then 1 else 0
  ofLocal ⟨year, month, day⟩ (hour * 3600 + minute * 60 + (second - leap))
    (leap * 1000000000 + fraction) offset

/-- The point in time that a text stands for. -/
def parse (s : String) : Except Fault Instant := ofChars s.toList

end SessionWatch.Instant
