/-
# Arithmetic of a shell

An expression between double parentheses is worked out with integers of 64 bits
that wrap. Variables count by their numbers, one that is not set as zero, and
may be set on the way. Of `&&`, `||` and a choice only what is needed counts.

Key definitions: `Shell.Arithmetic.Env`, `Shell.Arithmetic.evaluate`.
-/
import SessionWatch.Text.Escape

namespace SessionWatch.Shell.Arithmetic

/-- Why an expression has no value. -/
inductive Fault where
  | primary
  | ending
  | bracket
  | colon
  | zero
  | number (text : String)
  deriving DecidableEq

/-- What is told about an expression without a value. -/
def Fault.message (expression : String) : Fault → String
  | .number text => "Illegal number: " ++ text
  | f => "arithmetic expression: " ++ (match f with
      | .primary => "expecting primary"
      | .ending => "expecting EOF"
      | .bracket => "expecting ')'"
      | .colon => "expecting ':'"
      | _ => "division by zero") ++ ": \"" ++ expression ++ "\""

inductive Symbol where
  | number (n : Int)
  | name (s : String)
  | mark (s : String)
  /-- A character that has no meaning. -/
  | stray
  deriving DecidableEq

/-- The marks, the longer ones first. -/
def marks : List String :=
  ["<<=", ">>=", "<=", ">=", "==", "!=", "&&", "||", "<<", ">>", "+=", "-=", "*=", "/=", "%=",
   "&=", "^=", "|=", "<", ">", "+", "-", "*", "/", "%", "(", ")", "!", "~", "&", "^", "|", "?",
   ":", "="]

/-- A number in base ten, or in another one that its beginning tells. -/
def readNumber (cs : List Char) : Nat × List Char :=
  let decimal := fun c : Char => if c.isDigit then some (c.toNat - '0'.toNat) else none
  match cs with
  | '0' :: 'x' :: ds | '0' :: 'X' :: ds =>
    (Text.readDigits? 16 ds.length Text.hexDigit? ds).getD (0, 'x' :: ds)
  | '0' :: ds => (Text.readDigits? 8 ds.length Text.octalDigit? ds).getD (0, ds)
  | ds => (Text.readDigits? 10 ds.length decimal ds).getD (0, [])

/-- A number of 64 bits. -/
def wrap (z : Int) : Int := Int.bmod z (Nat.pow 2 64)

/-- The symbols of an expression. -/
def symbols : (fuel : Nat) → List Char → List Symbol
  | 0, _ | _, [] => []
  | fuel + 1, c :: cs =>
    if c = ' ' ∨ c = '\t' ∨ c = '\n' then symbols fuel cs
    else if c.isDigit then
      let (n, rest) := readNumber (c :: cs)
      .number (wrap n) :: symbols fuel rest
    else if c.isAlpha ∨ c = '_' then
      let name := (c :: cs).takeWhile fun c => c.isAlphanum || c = '_'
      .name (String.ofList name) :: symbols fuel ((c :: cs).drop name.length)
    else match marks.find? fun m => m.toList.isPrefixOf (c :: cs) with
      | none => [.stray]
      | some m => .mark m :: symbols fuel ((c :: cs).drop m.length)

/-- The values of variables: as they were, and as they were set on the way. -/
structure Env where
  lookup : String → String
  sets : List (String × Int) := []

/-- The number that the value of a variable is. -/
def valueOf (text : String) : Except Fault Int :=
  let cs := text.toList.dropWhile fun c => c = ' ' || c = '\t' || c = '\n'
  let (negative, ds) : Bool × List Char := match cs with
    | '-' :: ds => (true, ds)
    | '+' :: ds => (false, ds)
    | ds => (false, ds)
  if cs.isEmpty then .ok 0
  else if ¬ ds.head?.any Char.isDigit then .error (.number text)
  else
    let (n, rest) := readNumber ds
    let rest := rest.dropWhile fun c => c = ' ' || c = '\t' || c = '\n'
    if rest.isEmpty then .ok (wrap (if negative then -(n : Int) else n)) else .error (.number text)

def Env.get (e : Env) (name : String) : Except Fault Int :=
  match e.sets.lookup name with
  | some n => .ok n
  | none => valueOf (e.lookup name)

def Env.set (e : Env) (name : String) (n : Int) : Env :=
  { e with sets := (name, n) :: e.sets.filter (·.1 ≠ name) }

/-- How strongly an operator binds. -/
def strength? : String → Option Nat
  | "||" => some 1
  | "&&" => some 2
  | "|" => some 3
  | "^" => some 4
  | "&" => some 5
  | "==" | "!=" => some 6
  | "<" | "<=" | ">" | ">=" => some 7
  | "<<" | ">>" => some 8
  | "+" | "-" => some 9
  | "*" | "/" | "%" => some 10
  | _ => none

/-- The operator of an assignment; none for a plain one. -/
def assignment? (mark : String) : Option (Option String) :=
  if mark = "=" then some none
  else if ["<<=", ">>=", "+=", "-=", "*=", "/=", "%=", "&=", "^=", "|="].contains mark then
    some (some (mark.dropEnd 1).toString)
  else none

def truth (b : Bool) : Int := if b then 1 else 0

def onWords (f : Nat → Nat → Nat) (a b : Int) : Int :=
  let word := fun z : Int => (z % (Nat.pow 2 64 : Nat)).toNat
  wrap (f (word a) (word b))

/-- The result of an operator. -/
def combine (op : String) (a b : Int) : Except Fault Int :=
  match op with
  | "||" => .ok (truth (a ≠ 0 ∨ b ≠ 0))
  | "&&" => .ok (truth (a ≠ 0 ∧ b ≠ 0))
  | "|" => .ok (onWords Nat.lor a b)
  | "^" => .ok (onWords Nat.xor a b)
  | "&" => .ok (onWords Nat.land a b)
  | "==" => .ok (truth (a = b))
  | "!=" => .ok (truth (a ≠ b))
  | "<" => .ok (truth (a < b))
  | "<=" => .ok (truth (a ≤ b))
  | ">" => .ok (truth (a > b))
  | ">=" => .ok (truth (a ≥ b))
  | "<<" => .ok (wrap (a * Nat.pow 2 ((b % 64).toNat)))
  | ">>" => .ok (a / Nat.pow 2 ((b % 64).toNat))
  | "+" => .ok (wrap (a + b))
  | "-" => .ok (wrap (a - b))
  | "*" => .ok (wrap (a * b))
  | "/" => if b = 0 then .error .zero else .ok (wrap (a.tdiv b))
  | "%" => if b = 0 then .error .zero else .ok (a.tmod b)
  | _ => .error .primary

/-- A value with the variables and the symbols behind it. -/
abbrev Result := Except Fault (Int × Env × List Symbol)

mutual

/-- An assignment or a choice; what is not `live` is read but not worked out. -/
def assign : (fuel : Nat) → (live : Bool) → Env → List Symbol → Result
  | 0, _, _, _ => .error .primary
  | fuel + 1, live, e, ss =>
    match ss with
    | .name n :: .mark m :: rest =>
      match assignment? m with
      | none => choose fuel live e ss
      | some op =>
        match assign fuel live e rest with
        | .error f => .error f
        | .ok (v, e, rest) =>
          if ¬ live then .ok (0, e, rest)
          else match op with
            | none => .ok (v, e.set n v, rest)
            | some op =>
              match e.get n with
              | .error f => .error f
              | .ok old =>
                match combine op old v with
                | .error f => .error f
                | .ok v => .ok (v, e.set n v, rest)
    | ss => choose fuel live e ss

def choose : (fuel : Nat) → (live : Bool) → Env → List Symbol → Result
  | 0, _, _, _ => .error .primary
  | fuel + 1, live, e, ss =>
    match binary fuel live 1 e ss with
    | .ok (test, e, .mark "?" :: rest) =>
      match assign fuel (live && test ≠ 0) e rest with
      | .ok (yes, e, .mark ":" :: rest) =>
        match choose fuel (live && test = 0) e rest with
        | .ok (no, e, rest) => .ok (if test ≠ 0 then yes else no, e, rest)
        | .error f => .error f
      | .ok _ => .error .colon
      | .error f => .error f
    | r => r

/-- Operands and the operators between them that bind at least as strongly as `least`. -/
def binary : (fuel : Nat) → (live : Bool) → (least : Nat) → Env → List Symbol → Result
  | 0, _, _, _, _ => .error .primary
  | fuel + 1, live, least, e, ss =>
    match primary fuel live e ss with
    | .error f => .error f
    | .ok (a, e, rest) => more fuel live least a e rest

def more : (fuel : Nat) → (live : Bool) → (least : Nat) → Int → Env → List Symbol → Result
  | 0, _, _, _, _, _ => .error .primary
  | fuel + 1, live, least, a, e, ss =>
    match ss with
    | .mark op :: rest =>
      match strength? op with
      | none => .ok (a, e, ss)
      | some n =>
        if n < least then .ok (a, e, ss)
        else
          let needed := live && !(op = "||" && a ≠ 0) && !(op = "&&" && a = 0)
          match binary fuel needed (n + 1) e rest with
          | .error f => .error f
          | .ok (b, e, rest) =>
            if ¬ live then more fuel live least 0 e rest
            else match combine op a b with
              | .error f => .error f
              | .ok v => more fuel live least v e rest
    | ss => .ok (a, e, ss)

def primary : (fuel : Nat) → (live : Bool) → Env → List Symbol → Result
  | 0, _, _, _ => .error .primary
  | fuel + 1, live, e, ss =>
    let applied := fun (f : Int → Int) (rest : List Symbol) =>
      match primary fuel live e rest with
      | .ok (a, e, rest) => Except.ok (wrap (f a), e, rest)
      | .error fault => .error fault
    match ss with
    | .number n :: rest => .ok (n, e, rest)
    | .name n :: rest =>
      if ¬ live then .ok (0, e, rest)
      else match e.get n with
        | .ok v => .ok (v, e, rest)
        | .error f => .error f
    | .mark "(" :: rest =>
      match assign fuel live e rest with
      | .ok (v, e, .mark ")" :: rest) => .ok (v, e, rest)
      | .ok _ => .error .bracket
      | .error f => .error f
    | .mark "-" :: rest => applied (fun a => -a) rest
    | .mark "+" :: rest => applied id rest
    | .mark "!" :: rest => applied (fun a => truth (a = 0)) rest
    | .mark "~" :: rest => applied (fun a => -a - 1) rest
    | _ => .error .primary

end

/-- The value of an expression, and the variables that were set. -/
def evaluate (lookup : String → String) (expression : String) :
    Except Fault (Int × List (String × Int)) :=
  match symbols (expression.length + 1) expression.toList with
  | [] => .ok (0, [])
  | ss =>
    match assign (24 * ss.length + 24) true { lookup := lookup } ss with
    | .ok (v, e, []) => .ok (v, e.sets.reverse)
    | .ok _ => .error .ending
    | .error f => .error f

end SessionWatch.Shell.Arithmetic
