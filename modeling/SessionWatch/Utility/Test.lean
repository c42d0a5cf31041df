/-
# Tests of texts, numbers and files

A test is written as words: an operand alone, an operator before or between
operands, and tests joined by `-a`, `-o`, a mark of exclamation and
parentheses. With few words, what stands in the middle decides what is an
operator.

Key definitions: `Utility.Condition`, `Utility.Condition.holds?`.
-/
import SessionWatch.Process.Host
import SessionWatch.Utility.Basic

namespace SessionWatch.Utility

/-- What a test may ask about, beside its words. -/
structure Condition where
  look : String → Look
  /-- Two equals signs are an operator. -/
  doubled : Bool

namespace Condition

/-- What is wrong with a test. -/
inductive Fault where
  | number (text : String)
  | operator (text : String)
  | argument (text : String)
  | closing
  deriving DecidableEq

def Fault.message : Fault → String
  | .number text => "Illegal number: " ++ text
  | .operator text => text ++ ": unexpected operator"
  | .argument text => text ++ ": argument expected"
  | .closing => "closing paren expected"

abbrev Answer (α : Type) := Except Fault α

/-- The operators in front of one operand. -/
def unary : List String :=
  ["-r", "-w", "-x", "-e", "-f", "-d", "-c", "-b", "-p", "-u", "-g", "-k", "-s", "-t", "-z", "-n",
   "-h", "-L", "-S", "-O", "-G"]

/-- The operators between two operands. -/
def binary (c : Condition) : List String :=
  ["=", "!=", "<", ">", "-eq", "-ne", "-gt", "-ge", "-lt", "-le", "-nt", "-ot", "-ef"]
    ++ if c.doubled then ["=="] else []

def isOperator (c : Condition) (w : String) : Bool :=
  unary.contains w || c.binary.contains w || ["!", "(", ")", "-a", "-o"].contains w

/-- What the first word of some words is. -/
inductive Role where
  | absent
  | operand
  | operator (name : String)
  deriving DecidableEq

/-- The first word is an operator unless it must be an operand: one in front of an operand that
is followed by nothing or by an operator between two operands, or a bracket at the end. -/
def role (c : Condition) : List String → Role
  | [] => .absent
  | w :: ws =>
    if ¬ c.isOperator w then .operand
    else if unary.contains w then
      match ws with
      | [] => .operand
      | [_] => .operator w
      | v :: _ => if c.binary.contains v then .operand else .operator w
    else if w = "(" ∧ ws.isEmpty then .operand
    else .operator w

def number (s : String) : Answer Int :=
  let trimmed := (s.toList.dropWhile (· = ' ')).reverse.dropWhile (· = ' ')
  match integer? (String.ofList trimmed.reverse) with
  | some n => .ok n
  | none => .error (.number s)

/-- Whether a file is of the kind that an operator asks for. -/
def file (c : Condition) (op path : String) : Bool :=
  match c.look path with
  | .nothing _ => false
  | .directory => ["-e", "-d", "-r", "-w", "-x", "-s", "-O", "-G"].contains op
  | .device => ["-e", "-c", "-r", "-w", "-O", "-G"].contains op
  | .file content =>
    if op = "-s" then content ≠ [] else ["-e", "-f", "-r", "-w", "-O", "-G"].contains op
  | .executable _ => ["-e", "-f", "-r", "-w", "-x", "-s", "-O", "-G"].contains op

/-- An operator in front of an operand. -/
def unaryHolds (c : Condition) (op a : String) : Answer Bool :=
  match op with
  | "-z" => .ok (a = "")
  | "-n" => .ok (a ≠ "")
  | "-t" => (number a).map fun _ => false
  | op => .ok (c.file op a)

/-- An operator between two operands. -/
def binaryHolds (c : Condition) (a op b : String) : Answer Bool :=
  match op with
  | "=" | "==" => .ok (a = b)
  | "!=" => .ok (a ≠ b)
  | "<" => .ok (a < b)
  | ">" => .ok (b < a)
  | "-nt" => .ok (c.file "-e" a && !c.file "-e" b)
  | "-ot" => .ok (c.file "-e" b && !c.file "-e" a)
  | "-ef" => .ok (c.file "-e" a && a = b)
  | op =>
    match number a, number b with
    | .error f, _ | .ok _, .error f => .error f
    | .ok x, .ok y => .ok (match op with
      | "-eq" => x = y
      | "-ne" => x ≠ y
      | "-gt" => y < x
      | "-ge" => y ≤ x
      | "-lt" => x < y
      | _ => x ≤ y)

mutual

/-- A test joined by `-o`, as far as it goes, and the words behind it. -/
def either (c : Condition) : (fuel : Nat) → List String → Answer (Bool × List String)
  | 0, ws => .ok (false, ws)
  | fuel + 1, ws =>
    match c.both fuel ws with
    | .error f => .error f
    | .ok (a, rest) =>
      if c.role rest = .operator "-o" then
        match c.either fuel (rest.drop 1) with
        | .error f => .error f
        | .ok (b, rest) => .ok (a || b, rest)
      else .ok (a, rest)

/-- A test joined by `-a`. -/
def both (c : Condition) : (fuel : Nat) → List String → Answer (Bool × List String)
  | 0, ws => .ok (false, ws)
  | fuel + 1, ws =>
    match c.single fuel ws with
    | .error f => .error f
    | .ok (a, rest) =>
      if c.role rest = .operator "-a" then
        match c.both fuel (rest.drop 1) with
        | .error f => .error f
        | .ok (b, rest) => .ok (a && b, rest)
      else .ok (a, rest)

/-- A test that is not joined. -/
def single (c : Condition) : (fuel : Nat) → List String → Answer (Bool × List String)
  | 0, ws => .ok (false, ws)
  | fuel + 1, ws =>
    match c.role ws, ws with
    | .operator "!", _ :: ws =>
      match c.single fuel ws with
      | .error f => .error f
      | .ok (a, rest) => .ok (!a, rest)
    | .operator "(", _ :: ws =>
      if c.role ws = .operator ")" then .ok (false, ws.drop 1)
      else match c.either fuel ws with
        | .error f => .error f
        | .ok (a, rest) =>
          if c.role rest = .operator ")" then .ok (a, rest.drop 1) else .error .closing
    | r, w :: ws =>
      match r, ws with
      | .operator op, a :: rest =>
        if unary.contains op then (c.unaryHolds op a).map (·, rest) else c.plain w (a :: rest)
      | .operator op, [] =>
        if unary.contains op then .error (.argument op) else c.plain w []
      | _, ws => c.plain w ws
    | _, [] => .ok (false, [])

/-- An operand, or two with an operator between them. -/
def plain (c : Condition) (a : String) (ws : List String) : Answer (Bool × List String) :=
  match c.role ws, ws with
  | .operator op, _ :: b :: rest =>
    if c.binary.contains op then (c.binaryHolds a op b).map (·, rest) else .ok (a ≠ "", ws)
  | .operator op, _ =>
    if c.binary.contains op then .error (.argument op) else .ok (a ≠ "", ws)
  | _, _ => .ok (a ≠ "", ws)

end

/-- The truth of some words that are read from the first to the last. -/
def whole (c : Condition) (ws : List String) : Answer Bool :=
  match c.either (4 * ws.length + 4) ws with
  | .error f => .error f
  | .ok (a, []) => .ok a
  | .ok (_, rest) => .error (.operator ((ws[ws.length - rest.length - 1]?).getD ""))

/-- The truth of a test. -/
def holds? (c : Condition) : (fuel : Nat) → List String → Answer Bool
  | 0, _ | _, [] => .ok false
  | fuel + 1, ws =>
    match ws with
    | [a, op, b] =>
      if c.binary.contains op then c.binaryHolds a op b
      else if a = "(" ∧ b = ")" then c.whole [op]
      else if a = "!" then (c.holds? fuel [op, b]).map not
      else c.whole ws
    | [a, b, d, e] =>
      if a = "(" ∧ e = ")" then c.whole [b, d]
      else if a = "!" then (c.holds? fuel [b, d, e]).map not
      else c.whole ws
    | ws => c.whole ws

end Condition

/-- What is told about a test, and its status. -/
def Condition.status (c : Condition) (args : List String) : Option Condition.Fault × Nat :=
  match c.holds? 3 args with
  | .ok true => (none, 0)
  | .ok false => (none, 1)
  | .error f => (some f, 2)

end SessionWatch.Utility
