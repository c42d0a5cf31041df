/-
# Rules for records: reading them

A program of rules says what is done with each line of a text: a pattern chooses
lines, an action in braces prints and reckons with their fields. A program is
read into symbols, and these into rules, statements and expressions.

Key definitions: `Utility.Awk.Expr`, `Utility.Awk.Stmt`, `Utility.Awk.Rule`,
`Utility.Awk.readProgram?`.
-/
import SessionWatch.Utility.Printf

namespace SessionWatch.Utility.Awk

/-- A symbol of a program. -/
inductive Symbol where
  | number (text : String)
  | text (s : String)
  | regex (s : String)
  | name (s : String)
  | mark (s : String)
  | newline
  deriving DecidableEq

inductive Expr where
  | number (text : String)
  | text (s : String)
  /-- An expression that the line is matched with. -/
  | regex (s : String)
  | variable (name : String)
  | field (e : Expr)
  | item (array : String) (keys : List Expr)
  | contains (keys : List Expr) (array : String)
  | assign (op : String) (place value : Expr)
  | choose (test yes no : Expr)
  | binary (op : String) (a b : Expr)
  | unary (op : String) (a : Expr)
  /-- A place is changed by one, before or after its value is taken. -/
  | step (amount : Int) (before : Bool) (place : Expr)
  | call (name : String) (args : List Expr)
  /-- Takes the next line, into a place or as the line that is worked on. -/
  | take (place : Option Expr)

inductive Stmt where
  | nothing
  | expr (e : Expr)
  | print (args : List Expr) (silent : Bool)
  | printf (args : List Expr) (silent : Bool)
  | sequence (a b : Stmt)
  | branch (test : Expr) (yes no : Stmt)
  | loop (test : Expr) (body after : Stmt) (first : Bool)
  | forEach (name array : String) (body : Stmt)
  | delete (array : String) (keys : Option (List Expr))
  | leave | again | next
  | exit (e : Option Expr)
  | give (e : Option Expr)

inductive Pattern where
  | begins
  | ends
  | always
  | holds (e : Expr)
  | between (a b : Expr)

structure Rule where
  pattern : Pattern
  action : Stmt

/-- A function of a program. -/
structure Function where
  name : String
  parameters : List String
  body : Stmt

structure Program where
  rules : List Rule := []
  functions : List Function := []

/-! ## Symbols -/

def marks : List String :=
  ["&&", "||", "==", "!=", "<=", ">=", "++", "--", "+=", "-=", "*=", "/=", "%=", "^=", "!~",
   ">>", "\x7b", "\x7d", "(", ")", "[", "]", ";", ",", "+", "-", "*", "/", "%", "^", "!",
   ">", "<", "|", "?", ":", "~", "$", "="]

/-- Words that are no names. -/
def keywords : List String :=
  ["print", "printf", "if", "else", "while", "do", "for", "in", "next", "exit", "delete", "break",
   "continue", "BEGIN", "END", "getline", "function", "func", "return"]

/-- An operand ends here, so that a slash divides. -/
def isOperandEnd : List Symbol → Bool
  | .number _ :: _ | .text _ :: _ | .regex _ :: _ => true
  | .name s :: _ => !keywords.contains s
  | .mark s :: _ => [")", "]", "++", "--"].contains s
  | _ => false

/-- A text up to its closing mark. -/
def readQuoted? (mark : Char) : (acc : List Char) → List Char → Option (List Char × List Char)
  | _, [] => none
  | acc, '\\' :: c :: cs =>
    if c = mark then readQuoted? mark (if mark = '"' then c :: '\\' :: acc else c :: acc) cs
    else readQuoted? mark (c :: '\\' :: acc) cs
  | acc, c :: cs => if c = mark then some (acc.reverse, cs) else readQuoted? mark (c :: acc) cs

def isNameChar (c : Char) : Bool := c.isAlphanum || c = '_'

/-- The symbols of a program, put before those of `acc`, which has the latest one first. -/
def symbols? : (fuel : Nat) → (acc : List Symbol) → List Char → Option (List Symbol)
  | 0, _, _ => none
  | _ + 1, acc, [] => some acc.reverse
  | fuel + 1, acc, c :: cs =>
    if c = ' ' ∨ c = '\t' ∨ c = '\r' then symbols? fuel acc cs
    else if c = '\n' then symbols? fuel (.newline :: acc) cs
    else if c = '\\' ∧ cs.head? = some '\n' then symbols? fuel acc (cs.drop 1)
    else if c = '#' then symbols? fuel acc (cs.dropWhile (· ≠ '\n'))
    else if c = '"' then
      match readQuoted? '"' [] cs with
      | none => none
      | some (text, rest) =>
        let s := (({ quotes := true } : Text.Escapes).expand (String.ofList text)).1
        symbols? fuel (.text s :: acc) rest
    else if c = '/' ∧ ¬ isOperandEnd acc then
      match readQuoted? '/' [] cs with
      | none => none
      | some (text, rest) => symbols? fuel (.regex (String.ofList text) :: acc) rest
    else if c.isDigit ∨ (c = '.' ∧ cs.head?.any Char.isDigit) then
      let whole := (c :: cs).takeWhile fun c => c.isDigit || c = '.'
      let rest := (c :: cs).drop whole.length
      let e := match rest with
        | 'e' :: '-' :: d :: _ | 'e' :: '+' :: d :: _ => if d.isDigit then rest.take 2 else []
        | 'e' :: d :: _ => if d.isDigit then rest.take 1 else []
        | _ => []
      let es := if e.isEmpty then [] else e ++ (rest.drop e.length).takeWhile Char.isDigit
      symbols? fuel (.number (String.ofList (whole ++ es)) :: acc) (rest.drop es.length)
    else if c.isAlpha ∨ c = '_' then
      let name := (c :: cs).takeWhile isNameChar
      symbols? fuel (.name (String.ofList name) :: acc) ((c :: cs).drop name.length)
    else match marks.find? fun m => m.toList.isPrefixOf (c :: cs) with
      | none => none
      | some m => symbols? fuel (.mark m :: acc) ((c :: cs).drop m.length)

/-! ## Expressions -/

/-- What a reader gives: a part of a program and the symbols left. -/
abbrev Read (α : Type) := Option (α × List Symbol)

def skipNewlines (ss : List Symbol) : List Symbol := ss.dropWhile (· = .newline)

def mark? (m : String) : List Symbol → Option (List Symbol)
  | s :: ss => if s = .mark m then some ss else none
  | [] => none

def name? (n : String) : List Symbol → Option (List Symbol)
  | s :: ss => if s = .name n then some ss else none
  | [] => none

/-- The functions that are known. -/
def functions : List String :=
  ["length", "substr", "index", "split", "sub", "gsub", "match", "toupper", "tolower", "sprintf",
   "int", "sqrt", "exp", "log", "sin", "cos", "atan2", "rand", "srand"]

/-- The operators between two operands, the weakest first; those of a level go from left to
right. Two operands without an operator are joined. -/
def levels : List (List String) :=
  [["||"], ["&&"], ["in"], ["~", "!~"], ["<", "<=", "==", "!=", ">", ">="], [""], ["+", "-"],
   ["*", "/", "%"]]

def assignments : List String := ["=", "+=", "-=", "*=", "/=", "%=", "^="]

def isPlace : Expr → Bool
  | .variable _ | .field _ | .item _ _ => true
  | _ => false

/-- An operand may begin here, so that it is joined to the one before. -/
def beginsOperand : List Symbol → Bool
  | .number _ :: _ | .text _ :: _ | .regex _ :: _ => true
  | .name s :: _ => !keywords.contains s
  | .mark s :: _ => ["(", "$", "!", "-", "+", "++", "--"].contains s
  | _ => false

mutual

/-- An expression; where output may be directed elsewhere, `>` is no operator, and `in` none in
the head of a loop. -/
def expr? (bare : List String) : (fuel : Nat) → List Symbol → Read Expr
  | 0, _ => none
  | fuel + 1, ss =>
    match level? bare fuel levels ss with
    | none => none
    | some (a, .mark op :: rest) =>
      if op = "?" then
        match expr? bare fuel (skipNewlines rest) with
        | some (yes, .mark ":" :: rest) =>
          (expr? bare fuel (skipNewlines rest)).map fun (no, rest) => (.choose a yes no, rest)
        | _ => none
      else if assignments.contains op ∧ isPlace a then
        (expr? bare fuel (skipNewlines rest)).map fun (b, rest) => (.assign op a b, rest)
      else some (a, .mark op :: rest)
    | r => r

def level? (bare : List String) : (fuel : Nat) → List (List String) → List Symbol → Read Expr
  | 0, _, _ => none
  | fuel + 1, [], ss => unary? bare fuel ss
  | fuel + 1, level :: stronger, ss =>
    match level? bare fuel stronger ss with
    | none => none
    | some (a, rest) => more? bare fuel level stronger a rest

def more? (bare : List String) : (fuel : Nat) → List String → List (List String) → Expr →
    List Symbol → Read Expr
  | 0, _, _, _, _ => none
  | fuel + 1, level, stronger, a, ss =>
    match ss with
    | .mark op :: rest =>
      if level.contains op ∧ ¬ bare.contains op then
        match level? bare fuel stronger (skipNewlines rest) with
        | none => none
        | some (b, rest) => more? bare fuel level stronger (.binary op a b) rest
      else if level = [""] ∧ beginsOperand ss ∧ op ≠ "+" ∧ op ≠ "-" then
        match level? bare fuel stronger ss with
        | none => none
        | some (b, rest) => more? bare fuel level stronger (.binary "" a b) rest
      else some (a, ss)
    | .name "in" :: .name array :: rest =>
      if level = ["in"] ∧ ¬ bare.contains "in" then
        more? bare fuel level stronger (.contains [a] array) rest
      else some (a, ss)
    | ss =>
      if level = [""] ∧ beginsOperand ss then
        match level? bare fuel stronger ss with
        | none => none
        | some (b, rest) => more? bare fuel level stronger (.binary "" a b) rest
      else some (a, ss)

def unary? (bare : List String) : (fuel : Nat) → List Symbol → Read Expr
  | 0, _ => none
  | fuel + 1, ss =>
    match ss with
    | .mark "!" :: rest => (unary? bare fuel rest).map fun (a, rest) => (.unary "!" a, rest)
    | .mark "-" :: rest => (unary? bare fuel rest).map fun (a, rest) => (.unary "-" a, rest)
    | .mark "+" :: rest => (unary? bare fuel rest).map fun (a, rest) => (.unary "+" a, rest)
    | ss =>
      match stepped? bare fuel ss with
      | none => none
      | some (a, .mark op :: rest) =>
        if op = "^" then
          (unary? bare fuel rest).map fun (b, rest) => (.binary "^" a b, rest)
        else some (a, .mark op :: rest)
      | r => r

def stepped? (bare : List String) : (fuel : Nat) → List Symbol → Read Expr
  | 0, _ => none
  | fuel + 1, ss =>
    match ss with
    | .mark "++" :: rest =>
      (operand? bare fuel rest).map fun (a, rest) => (.step 1 true a, rest)
    | .mark "--" :: rest =>
      (operand? bare fuel rest).map fun (a, rest) => (.step (-1) true a, rest)
    | ss =>
      match operand? bare fuel ss with
      | none => none
      | some (a, .mark op :: rest) =>
        if op = "++" ∧ isPlace a then some (.step 1 false a, rest)
        else if op = "--" ∧ isPlace a then some (.step (-1) false a, rest)
        else some (a, .mark op :: rest)
      | r => r

def operand? (bare : List String) : (fuel : Nat) → List Symbol → Read Expr
  | 0, _ => none
  | fuel + 1, ss =>
    match ss with
    | .number n :: rest => some (.number n, rest)
    | .text s :: rest => some (.text s, rest)
    | .regex s :: rest => some (.regex s, rest)
    | .mark "$" :: .mark "++" :: rest =>
      (operand? bare fuel rest).map fun (a, rest) => (.field (.step 1 true a), rest)
    | .mark "$" :: .mark "-" :: rest =>
      (operand? bare fuel rest).map fun (a, rest) => (.field (.unary "-" a), rest)
    | .mark "$" :: rest => (operand? bare fuel rest).map fun (a, rest) => (.field a, rest)
    | .mark "(" :: rest =>
      match exprs? [] fuel (skipNewlines rest) with
      | some ([a], .mark ")" :: rest) => some (.call "" [a], rest)
      | some (keys, .mark ")" :: .name "in" :: .name array :: rest) =>
        some (.contains keys array, rest)
      | _ => none
    | .name n :: .mark "[" :: rest =>
      match exprs? [] fuel rest with
      | some (keys, .mark "]" :: rest) => some (.item n keys, rest)
      | _ => none
    | .name "getline" :: rest =>
      let place := match rest with
        | .name _ :: _ | .mark "$" :: _ => operand? bare fuel rest
        | _ => none
      match place with
      | some (e, .mark m :: rest) =>
        if m = "<" then none
        else if isPlace e then some (.take (some e), .mark m :: rest) else none
      | some (e, rest) => if isPlace e then some (.take (some e), rest) else none
      | none => if rest.head? = some (.mark "<") then none else some (.take none, rest)
    | .name n :: .mark "(" :: rest =>
      if keywords.contains n then none
      else match rest with
        | .mark ")" :: rest => some (.call n [], rest)
        | rest =>
          match exprs? [] fuel (skipNewlines rest) with
          | some (args, .mark ")" :: rest) => some (.call n args, rest)
          | _ => none
    | .name n :: rest =>
      if keywords.contains n then none
      else if functions.contains n then
        if n = "length" then some (.call n [], rest) else none
      else some (.variable n, rest)
    | _ => none

/-- Expressions with commas between them. -/
def exprs? (bare : List String) : (fuel : Nat) → List Symbol → Read (List Expr)
  | 0, _ => none
  | fuel + 1, ss =>
    match expr? bare fuel ss with
    | none => none
    | some (a, .mark "," :: rest) =>
      (exprs? bare fuel (skipNewlines rest)).map fun (as, rest) => (a :: as, rest)
    | some (a, rest) => some ([a], rest)

end

/-! ## Statements -/

/-- Skips what may end a statement. -/
def skipEnds (ss : List Symbol) : List Symbol :=
  ss.dropWhile fun s => s = .newline || s = .mark ";"

/-- The end of a simple statement: a semicolon, a line feed, or a closing brace that stays. -/
def ended? : List Symbol → Option (List Symbol)
  | [] => some []
  | .newline :: rest | .mark ";" :: rest => some rest
  | .mark "\x7d" :: rest => some (.mark "\x7d" :: rest)
  | _ => none

/-- The arguments of a print, which may stand between parentheses, and whether the output is
directed elsewhere. -/
def printed? (fuel : Nat) (ss : List Symbol) : Read (List Expr × Bool) :=
  let direct := fun (args : List Expr) (rest : List Symbol) =>
    match rest with
    | .mark m :: rest =>
      if m = ">" ∨ m = ">>" ∨ m = "|" then
        (expr? [">", "|"] fuel rest).map fun (e, rest) =>
          ((args, match e with
            | .text s => s ≠ "/dev/stdout" && s ≠ "-"
            | _ => true), rest)
      else some ((args, false), .mark m :: rest)
    | rest => some ((args, false), rest)
  let wrapped : Read (List Expr × Bool) := match ss with
    | .mark "(" :: rest =>
      match exprs? [] fuel (skipNewlines rest) with
      | some (args, .mark ")" :: rest) =>
        match direct args rest with
        | some (r, rest) => if (ended? rest).isSome then some (r, rest) else none
        | none => none
      | _ => none
    | _ => none
  match wrapped with
  | some r => some r
  | none =>
    if (ended? ss).isSome then some (([], false), ss)
    else match ss with
      | .mark m :: _ =>
        if m = ">" ∨ m = ">>" ∨ m = "|" then direct [] ss
        else (exprs? [">", "|"] fuel ss).bind fun (args, rest) => direct args rest
      | ss => (exprs? [">", "|"] fuel ss).bind fun (args, rest) => direct args rest

/-- A statement that holds no other, without its end. -/
def simple? (fuel : Nat) (ss : List Symbol) : Read Stmt :=
  match ss with
  | .name "print" :: rest => (printed? fuel rest).map fun (r, rest) => (.print r.1 r.2, rest)
  | .name "printf" :: rest => (printed? fuel rest).map fun (r, rest) => (.printf r.1 r.2, rest)
  | .name "next" :: rest => some (.next, rest)
  | .name "break" :: rest => some (.leave, rest)
  | .name "continue" :: rest => some (.again, rest)
  | .name "exit" :: rest =>
    if (ended? rest).isSome then some (.exit none, rest)
    else (expr? [] fuel rest).map fun (e, rest) => (.exit (some e), rest)
  | .name "return" :: rest =>
    if (ended? rest).isSome then some (.give none, rest)
    else (expr? [] fuel rest).map fun (e, rest) => (.give (some e), rest)
  | .name "delete" :: .name array :: .mark "[" :: rest =>
    match exprs? [] fuel rest with
    | some (keys, .mark "]" :: rest) => some (.delete array (some keys), rest)
    | _ => none
  | .name "delete" :: .name array :: rest => some (.delete array none, rest)
  | ss => (expr? [] fuel ss).map fun (e, rest) => (.expr e, rest)

mutual

def stmt? : (fuel : Nat) → List Symbol → Read Stmt
  | 0, _ => none
  | fuel + 1, ss =>
    match ss with
    | .mark "\x7b" :: rest => block? fuel rest
    | .mark ";" :: rest => some (.nothing, rest)
    | .name "if" :: .mark "(" :: rest =>
      match expr? [] fuel rest with
      | some (test, .mark ")" :: rest) =>
        match stmt? fuel (skipNewlines rest) with
        | none => none
        | some (yes, rest) =>
          match name? "else" (skipEnds rest) with
          | some rest =>
            (stmt? fuel (skipNewlines rest)).map fun (no, rest) => (.branch test yes no, rest)
          | none => some (.branch test yes .nothing, rest)
      | _ => none
    | .name "while" :: .mark "(" :: rest =>
      match expr? [] fuel rest with
      | some (test, .mark ")" :: rest) =>
        (stmt? fuel (skipNewlines rest)).map fun (body, rest) =>
          (.loop test body .nothing true, rest)
      | _ => none
    | .name "do" :: rest =>
      match stmt? fuel (skipNewlines rest) with
      | none => none
      | some (body, rest) =>
        match skipEnds rest with
        | .name "while" :: .mark "(" :: rest =>
          match expr? [] fuel rest with
          | some (test, .mark ")" :: rest) =>
            (ended? rest).map fun rest => (.loop test body .nothing false, rest)
          | _ => none
        | _ => none
    | .name "for" :: .mark "(" :: .name v :: .name "in" :: .name array :: .mark ")" :: rest =>
      (stmt? fuel (skipNewlines rest)).map fun (body, rest) => (.forEach v array body, rest)
    | .name "for" :: .mark "(" :: rest =>
      let part := fun (closing : String) (ss : List Symbol) =>
        match mark? closing ss with
        | some rest => some (Stmt.nothing, rest)
        | none => match simple? fuel ss with
          | some (s, rest) => (mark? closing rest).map fun rest => (s, rest)
          | none => none
      match part ";" rest with
      | none => none
      | some (first, rest) =>
        let test : Read Expr := match mark? ";" rest with
          | some rest => some (.number "1", rest)
          | none => match expr? [] fuel rest with
            | some (e, rest) => (mark? ";" rest).map fun rest => (e, rest)
            | none => none
        match test with
        | none => none
        | some (test, rest) =>
          match part ")" rest with
          | none => none
          | some (after, rest) =>
            (stmt? fuel (skipNewlines rest)).map fun (body, rest) =>
              (.sequence first (.loop test body after true), rest)
    | ss =>
      match simple? fuel ss with
      | none => none
      | some (s, rest) => (ended? rest).map fun rest => (s, rest)

/-- The statements of a block, up to its closing brace. -/
def block? : (fuel : Nat) → List Symbol → Read Stmt
  | 0, _ => none
  | fuel + 1, ss =>
    match skipEnds ss with
    | .mark "\x7d" :: rest => some (.nothing, rest)
    | ss =>
      match stmt? fuel ss with
      | none => none
      | some (a, rest) => (block? fuel rest).map fun (b, rest) => (.sequence a b, rest)

end

/-- The parameters of a function, up to the closing parenthesis. -/
def parameters? : List Symbol → Read (List String)
  | .mark ")" :: rest => some ([], rest)
  | .name n :: .mark ")" :: rest => some ([n], rest)
  | .name n :: .mark "," :: rest =>
    (parameters? (rest.dropWhile (· = .newline))).map fun (ns, rest) => (n :: ns, rest)
  | _ => none
termination_by ss => ss.length
decreasing_by
  simp only [List.length_cons]
  have := (List.dropWhile_sublist (· = Symbol.newline) (l := rest)).length_le
  omega

/-- The rules and functions of a program. -/
def program? : (fuel : Nat) → List Symbol → Option Program
  | 0, _ => none
  | fuel + 1, ss =>
    match skipEnds ss with
    | [] => some {}
    | .name "function" :: .name n :: .mark "(" :: rest
    | .name "func" :: .name n :: .mark "(" :: rest =>
      match parameters? rest with
      | none => none
      | some (ps, rest) =>
        match skipNewlines rest with
        | .mark "\x7b" :: rest =>
          match block? fuel rest with
          | none => none
          | some (body, rest) => (program? fuel rest).map fun p =>
              { p with functions := ⟨n, ps, body⟩ :: p.functions }
        | _ => none
    | ss =>
      let and := fun (r : Rule) (rest : List Symbol) =>
        (program? fuel rest).map fun p => { p with rules := r :: p.rules }
      let action := fun (p : Pattern) (ss : List Symbol) =>
        match ss with
        | .mark "\x7b" :: rest =>
          match block? fuel rest with
          | none => none
          | some (s, rest) => and ⟨p, s⟩ rest
        | ss =>
          match p with
          | .holds _ | .between _ _ =>
            (ended? ss).bind fun rest => and ⟨p, .print [] false⟩ rest
          | _ => none
      match ss with
      | .name "BEGIN" :: rest => action .begins (skipNewlines rest)
      | .name "END" :: rest => action .ends (skipNewlines rest)
      | .mark "\x7b" :: _ => action .always ss
      | ss =>
        match expr? [] fuel ss with
        | none => none
        | some (a, .mark "," :: rest) =>
          (expr? [] fuel (skipNewlines rest)).bind fun (b, rest) => action (.between a b) rest
        | some (a, rest) => action (.holds a) rest

/-- The program that a text writes. -/
def readProgram? (s : String) : Option Program :=
  (symbols? (s.length + 1) [] s.toList).bind fun ss => program? (20 * ss.length + 20) ss

end SessionWatch.Utility.Awk
