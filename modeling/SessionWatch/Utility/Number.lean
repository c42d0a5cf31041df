/-
# Programs that reckon

Key definitions: `Utility.seq`, `Utility.expr`, `Utility.milliseconds?`.
-/
import SessionWatch.Text.Regex
import SessionWatch.Utility.Printf

namespace SessionWatch.Utility

/-! ## Times -/

/-- The milliseconds that an argument of sleep stands for. -/
def milliseconds? (s : String) : Option Nat :=
  if s = "infinity" ∨ s = "inf" then some never
  else
    let (unit, digits) :=
      match s.toList.reverse with
      | 's' :: ds => (1000, ds.reverse)
      | 'm' :: ds => (60000, ds.reverse)
      | 'h' :: ds => (3600000, ds.reverse)
      | 'd' :: ds => (86400000, ds.reverse)
      | _ => (1000, s.toList)
    let whole := digits.takeWhile Char.isDigit
    match digits.dropWhile Char.isDigit with
    | [] => if whole.isEmpty then none else some (digitsValue whole * unit)
    | '.' :: part =>
      if part.all Char.isDigit ∧ ¬ (whole ++ part).isEmpty then
        some (digitsValue (whole ++ part) * unit / Nat.pow 10 part.length)
      else none
    | _ => none

/-- Waits for the sum of some times. -/
def sleep (c : Call) : Effect :=
  match c.args.mapM milliseconds? with
  | some [] => c.fails "missing operand\nTry 'sleep --help' for more information." 1
  | some ms => { c.prints "" 0 with ms := ms.foldl (· + ·) 0 }
  | none => c.fails "invalid time interval" 1

/-! ## Sequences -/

/-- A decimal number: its digits and how many of them are places. -/
structure Fixed where
  value : Int
  places : Nat

def Fixed.read? (s : String) : Option Fixed :=
  let (negative, cs) : Bool × List Char := match s.toList with
    | '-' :: cs => (true, cs)
    | '+' :: cs => (false, cs)
    | cs => (false, cs)
  let whole := cs.takeWhile Char.isDigit
  let part? : Option (List Char) := match cs.drop whole.length with
    | [] => some []
    | '.' :: ds => if ds.all Char.isDigit then some ds else none
    | _ => none
  match part? with
  | none => none
  | some part =>
    if (whole ++ part).isEmpty then none
    else
      let n : Int := digitsValue (whole ++ part)
      some ⟨if negative then -n else n, part.length⟩

/-- The value with a number of places. -/
def Fixed.scaled (x : Fixed) (places : Nat) : Int := x.value * Nat.pow 10 (places - x.places)

def Fixed.text (x : Fixed) (width : Nat) : String :=
  let sign := if x.value < 0 then "-" else ""
  let digits := padLeft (x.places + 1) '0' (toString x.value.natAbs)
  let (whole, part) := digits.toList.splitAt (digits.length - x.places)
  let body := String.ofList whole ++ if x.places = 0 then "" else "." ++ String.ofList part
  sign ++ padLeft (width - sign.length) '0' body

/-- The numbers from one on, a step apart, up to a last one. -/
def steps (step last : Int) : (fuel : Nat) → Int → List Int
  | 0, _ => []
  | fuel + 1, x =>
    if (0 < step ∧ last < x) ∨ (step < 0 ∧ x < last) then [] else x :: steps step last fuel (x + step)

/-- The most numbers that are printed. -/
def maxSteps : Nat := 1000000

/-- How a sequence is printed. -/
structure SeqStyle where
  separator : String := "\n"
  wide : Bool := false
  format : Option String := none

/-- Options of a sequence stand in front; a negative number is none. -/
def seqOptions : (fuel : Nat) → SeqStyle → List String → SeqStyle × List String
  | 0, st, args => (st, args)
  | fuel + 1, st, args =>
    match args with
    | "-w" :: rest | "--equal-width" :: rest => seqOptions fuel { st with wide := true } rest
    | "-s" :: s :: rest => seqOptions fuel { st with separator := s } rest
    | "-f" :: f :: rest => seqOptions fuel { st with format := some f } rest
    | "--" :: rest => (st, rest)
    | a :: rest =>
      if a.startsWith "-s" then
        seqOptions fuel { st with separator := (a.drop 2).toString } rest
      else (st, a :: rest)
    | [] => (st, [])

/-- Prints numbers in their order. -/
def seq (c : Call) : Effect :=
  let (st, operands) := seqOptions (c.args.length + 1) {} c.args
  let numbers := match operands.mapM Fixed.read? with
    | some [b] => some (Fixed.mk 1 0, Fixed.mk 1 0, b)
    | some [a, b] => some (a, Fixed.mk 1 0, b)
    | some [a, s, b] => some (a, s, b)
    | _ => none
  let help := "\nTry 'seq --help' for more information."
  match numbers with
  | none =>
    let bad := operands.find? fun a => (Fixed.read? a).isNone
    c.fails ((match bad with
      | some a => "invalid floating point argument: '" ++ a ++ "'"
      | none => "missing operand") ++ help) 1
  | some (a, s, b) =>
    if s.value = 0 then
      c.fails ("invalid Zero increment value: '" ++ operands[1]?.getD "0" ++ "'" ++ help) 1
    else
      let scale := max a.places (max s.places b.places)
      let places := max a.places s.places
      let xs := steps (s.scaled scale) (b.scaled scale) maxSteps (a.scaled scale)
      let shown := fun x : Int => Fixed.mk (x / (Nat.pow 10 (scale - places) : Nat)) places
      let width := if st.wide then
          ([a.scaled scale, b.scaled scale].map fun x => ((shown x).text 0).length).foldl max 0
        else 0
      let formatted := fun x : Int => match st.format with
        | some f => (Printf.print { format := {}, argument := {} } f [(shown x).text 0]).1
        | none => (shown x).text width
      let texts := xs.map formatted
      c.prints (if texts.isEmpty then "" else st.separator.intercalate texts ++ "\n") 0

/-! ## Expressions of words -/

namespace Expr

/-- The levels of operators, the weakest first. -/
def levels : List (List String) :=
  [["|"], ["&"], ["<", "<=", "=", "==", "!=", ">=", ">"], ["+", "-"], ["*", "/", "%"], [":"]]

def isNull (s : String) : Bool := s = "" || integer? s = some 0

def truth (b : Bool) : String := if b then "1" else "0"

/-- What an expression gives for a text that it stands in front of: its first group, or how much
of the text it matches. -/
def matched (s pattern : String) : Option String :=
  (Text.Regex.parse? false pattern.toList).map fun r =>
    let grouped := (pattern.splitOn "\\(").length ≠ 1
    match (Text.Regex.sequence .lineStart r).find? false s.toList with
    | none => if grouped then "" else "0"
    | some m => if grouped then String.ofList ((m.groups.lookup 1).getD []) else toString m.text.length

/-- The result of an operator; none if it has none. -/
def combine? (op a b : String) : Option String :=
  let order := match integer? a, integer? b with
    | some x, some y => compare x y
    | _, _ => if a < b then .lt else if a = b then .eq else .gt
  match op with
  | "|" => some (if isNull a then (if isNull b then "0" else b) else a)
  | "&" => some (if isNull a ∨ isNull b then "0" else a)
  | "<" => some (truth (order == .lt))
  | "<=" => some (truth (order != .gt))
  | "=" | "==" => some (truth (order == .eq))
  | "!=" => some (truth (order != .eq))
  | ">=" => some (truth (order != .lt))
  | ">" => some (truth (order == .gt))
  | ":" => matched a b
  | op =>
    match integer? a, integer? b with
    | some x, some y =>
      match op with
      | "+" => some (toString (x + y))
      | "-" => some (toString (x - y))
      | "*" => some (toString (x * y))
      | "/" => if y = 0 then none else some (toString (x.tdiv y))
      | "%" => if y = 0 then none else some (toString (x.tmod y))
      | _ => none
    | _, _ => none

mutual

/-- An expression of the operators of some levels, as far as it goes. -/
def term? : (fuel : Nat) → List (List String) → List String → Option (String × List String)
  | 0, _, _ => none
  | fuel + 1, [], ws =>
    match ws with
    | "(" :: rest =>
      match term? fuel levels rest with
      | some (v, ")" :: rest) => some (v, rest)
      | _ => none
    | "length" :: s :: rest => some (toString s.length, rest)
    | "match" :: s :: p :: rest => (matched s p).map (·, rest)
    | "substr" :: s :: n :: m :: rest =>
      match number? n, number? m with
      | some n, some m =>
        some (if n = 0 then "" else ((s.drop (n - 1)).take m).toString, rest)
      | _, _ => some ("", rest)
    | "index" :: s :: cs :: rest =>
      some (toString (((s.toList.findIdx? fun c => cs.contains c).map (· + 1)).getD 0), rest)
    | "+" :: s :: rest => some (s, rest)
    | s :: rest => some (s, rest)
    | [] => none
  | fuel + 1, level :: stronger, ws =>
    match term? fuel stronger ws with
    | none => none
    | some (a, rest) => more? fuel level stronger a rest

/-- The operators of one level, from left to right. -/
def more? : (fuel : Nat) → List String → List (List String) → String → List String →
    Option (String × List String)
  | 0, _, _, _, _ => none
  | fuel + 1, level, stronger, a, ws =>
    match ws with
    | op :: rest =>
      if level.contains op then
        match term? fuel stronger rest with
        | none => none
        | some (b, rest) => (combine? op a b).bind fun v => more? fuel level stronger v rest
      else some (a, ws)
    | [] => some (a, [])

end

end Expr

/-- Prints the value of an expression; its status says whether that is null. -/
def expr (c : Call) : Effect :=
  match Expr.term? (16 * c.args.length + 16) Expr.levels c.args with
  | some (v, []) => c.prints (v ++ "\n") (if Expr.isNull v then 1 else 0)
  | _ => c.fails (if c.args.isEmpty then "missing operand" else "syntax error") 2

end SessionWatch.Utility
