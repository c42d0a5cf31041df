/-
# Rules for records: carrying them out

The rules of a program are carried out on each line of a text, after those for
the beginning and before those for the end. A value is a number or a text, and
what is read from a text counts as a number where it looks like one.

Key definitions: `Utility.Awk.Value`, `Utility.Awk.State`, `Utility.Awk.eval`,
`Utility.Awk.exec`, `Utility.awk`.
-/
import SessionWatch.Text.Regex
import SessionWatch.Utility.Awk.Program

namespace SessionWatch.Utility

namespace Awk

inductive Value where
  | unset
  | number (x : Float)
  | text (s : String)
  /-- A text that was read, which is also a number if it looks like one. -/
  | read (s : String)

/-- What happens next. -/
inductive Flow where
  | on
  | leave
  | again
  | next
  | exit
  | given
  deriving DecidableEq

structure State where
  vars : List (String × Value) := []
  arrays : List (String × List (String × Value)) := []
  record : String := ""
  fields : List String := []
  /-- What was printed, latest first. -/
  out : List String := []
  flow : Flow := .on
  status : Nat := 0
  /-- The ranges of lines that have begun, by the number of their rule. -/
  ranges : List Nat := []
  fault : Bool := false
  /-- A loop of the program never ends. -/
  endless : Bool := false
  functions : List Function := []
  /-- The lines to come, each with whether a file begins with it. -/
  coming : List (Bool × String) := []
  /-- The texts that no line has been taken from. -/
  unopened : List (List Char) := []
  /-- The value that a function gives. -/
  given : Value := .unset

/-! ## Values -/

/-- A text of digits that looks like a number, blanks around it. -/
def isNumeric (s : String) : Bool :=
  let cs := (s.toList.dropWhile (· = ' ')).reverse.dropWhile fun c => c = ' ' || c = '\n'
  let t := String.ofList cs.reverse
  t ≠ "" && (Printf.readDouble t).2

/-- The number of six digits, or the integer, that a number is written as. -/
def numberText (x : Float) : String :=
  if x.isNaN then "-nan"
  else if x.isInf then (if x < 0 then "-inf" else "inf")
  else if x == x.round ∧ x.abs < 1e16 then
    toString (if x < 0 then -(x.abs.toUInt64.toNat : Int) else x.toUInt64.toNat)
  else ({ precision := some 6, letter := 'g' } : Directive).printDouble x

def Value.toText : Value → String
  | .unset => ""
  | .number x => numberText x
  | .text s | .read s => s

def Value.toNumber : Value → Float
  | .unset => 0
  | .number x => x
  | .text s | .read s => (Printf.readDouble s).1

def Value.truth : Value → Bool
  | .unset => false
  | .number x => x != 0
  | .text s => s ≠ ""
  | .read s => if isNumeric s then (Printf.readDouble s).1 != 0 else s ≠ ""

def Value.isNumber : Value → Bool
  | .unset | .number _ => true
  | .text _ => false
  | .read s => isNumeric s

def ofBool (b : Bool) : Value := .number (if b then 1 else 0)

/-- The order of two values: of numbers if both are, else of texts. -/
def compareValues (a b : Value) : Ordering :=
  if a.isNumber ∧ b.isNumber then
    let (x, y) := (a.toNumber, b.toNumber)
    if x < y then .lt else if x == y then .eq else .gt
  else compareOfLessAndEq a.toText b.toText

/-- The integer that a number begins with. -/
def toInt (x : Float) : Int :=
  if x < 0 then -((-x).floor.toUInt64.toNat : Int) else x.floor.toUInt64.toNat

/-- A power; an exponent that is no integer gives the exponential. -/
def power (x y : Float) : Float := Float.pow x y

/-! ## State -/

def State.get (s : State) (name : String) : Value :=
  if name = "NF" then .number (Float.ofNat s.fields.length)
  else (s.vars.lookup name).getD .unset

def State.text (s : State) (name : String) : String := (s.get name).toText

/-- The parts of a text between separators: blanks, one character, or matches. -/
def splitText (separator : String) (text : String) : List String :=
  if text = "" then []
  else match separator.toList with
    | [' '] => (words text.toList).map String.ofList
    | [c] => (split c text.toList).map String.ofList
    | [] => text.toList.map String.singleton
    | cs =>
      match Text.Regex.parse? true cs with
      | none => [text]
      | some r =>
        let found := (r.findAll false text.toList).filter
          fun p => !p.2.text.isEmpty
        let rest := match found.getLast? with
          | some p => p.2.rest
          | none => text.toList
        (found.map fun p => String.ofList p.1) ++ [String.ofList rest]

def State.setRecord (s : State) (text : String) : State :=
  { s with record := text, fields := splitText (s.text "FS") text }

/-- The record is put together from its fields. -/
def State.join (s : State) : State := { s with record := (s.text "OFS").intercalate s.fields }

def State.setField (s : State) (n : Nat) (text : String) : State :=
  if n = 0 then s.setRecord text
  else
    let fields := s.fields ++ List.replicate (n - s.fields.length) ""
    ({ s with fields := fields.set (n - 1) text } : State).join

def State.set (s : State) (name : String) (v : Value) : State :=
  if name = "NF" then
    let n := (toInt v.toNumber).toNat
    ({ s with fields := s.fields.take n ++ List.replicate (n - s.fields.length) "" } : State).join
  else { s with vars := (name, v) :: s.vars.filter (·.1 ≠ name) }

def State.lookupArray (s : State) (array : String) : Option (List (String × Value)) :=
  s.arrays.lookup array

def State.items (s : State) (array : String) : List (String × Value) :=
  (s.arrays.lookup array).getD []

def State.setItems (s : State) (array : String) (items : List (String × Value)) : State :=
  { s with arrays := (array, items) :: s.arrays.filter (·.1 ≠ array) }

def State.setItem (s : State) (array key : String) (v : Value) : State :=
  let items := s.items array
  s.setItems array (if items.any (·.1 = key) then
      items.map fun p => if p.1 = key then (key, v) else p
    else items ++ [(key, v)])

def State.print (s : State) (text : String) : State := { s with out := text :: s.out }

/-- How the formats of a program are read; escapes were replaced before. -/
def formatStyle : Printf.Style := ⟨{}, {}⟩

/-- The letters of the directives of a format, a star for each number that an argument gives. -/
def directiveLetters : (fuel : Nat) → List Char → List Char
  | 0, _ | _, [] => []
  | fuel + 1, '%' :: cs =>
    let marks := cs.takeWhile fun c => !c.isAlpha && c ≠ '%'
    match cs.drop marks.length with
    | [] => []
    | letter :: rest =>
      marks.filter (· = '*') ++ (if letter = '%' then [] else [letter])
        ++ directiveLetters fuel rest
  | fuel + 1, _ :: cs => directiveLetters fuel cs

/-- How an argument is given to a directive of this letter. -/
def argumentText (letter : Char) (v : Value) : String :=
  match v with
  | .number x =>
    if letter = 'c' then String.singleton (Char.ofNat (x.toUInt64.toNat % 256))
    else if letter = 's' ∨ x == x.round then numberText x
    else ({ precision := some 17, letter := 'g' } : Directive).printDouble x
  | v =>
    let t := v.toText
    if letter = 'c' ∧ t = "" then "\x00" else t

/-- A format with its arguments put in, and whether there were enough. -/
def format (args : List Value) : String × Bool :=
  match args with
  | [] => ("", true)
  | f :: args =>
    let cs := f.toText.toList
    let plain := cs.flatMap fun c => if c = '\\' then ['\\', '\\'] else [c]
    let letters := directiveLetters (cs.length + 1) cs
    let texts := (letters.zip args).map fun p => argumentText p.1 p.2
    (String.join
      (Printf.pass formatStyle (plain.length + 1) [] plain { args := texts }).1.reverse,
      letters.length ≤ args.length)

/-- A value that cannot be told ends the program. -/
def State.fail (s : State) : State := { s with fault := true, flow := .exit, status := 2 }

/-- The lines of the next text that has not been opened. -/
def State.opened (s : State) (records : String → List Char → List String) : State :=
  match s.unopened with
  | [] => s
  | cs :: unopened =>
    let lines := (records (s.text "RS") cs).zipIdx.map fun p => (decide (p.2 = 0), p.1)
    { s with coming := lines, unopened := unopened }

/-- A replacement text: `&` stands for the match. -/
def replacement (m : List Char) : List Char → List Char
  | '\\' :: '&' :: cs => '&' :: replacement m cs
  | '\\' :: '\\' :: cs => '\\' :: replacement m cs
  | '&' :: cs => m ++ replacement m cs
  | c :: cs => c :: replacement m cs
  | [] => []

/-- Whether an expression is found in a text. -/
def isFound (r text : String) : Bool :=
  (Text.Regex.parse? true r.toList).any fun r => r.isFoundIn false false text.toList

/-- Replaces the first match or all of them; the second part counts them. -/
def substitute (r : Text.Regex) (all : Bool) (new text : String) : String × Nat :=
  let found := r.findAll false text.toList
  let found := if all then found else found.take 1
  let rest := match found.getLast? with
    | some p => p.2.rest
    | none => text.toList
  (String.ofList ((found.map fun p => p.1 ++ replacement p.2.text new.toList).flatten ++ rest),
    found.length)

/-- The records of a text: its lines, or what another separator leaves between. -/
def records (separator : String) (cs : List Char) : List String :=
  if separator = "\n" then (Lines.ofChars cs).lines.map String.ofList
  else if separator = "" then
    ((String.ofList cs).splitOn "\n\n").filter (· ≠ "") |>.map fun s =>
      (if s.endsWith "\n" then (s.dropEnd 1).toString else s)
  else
    let parts := (split (separator.toList.head?.getD '\n') cs).map String.ofList
    if parts.getLast? = some "" then parts.dropLast else parts

/-- Takes the next line of the texts, counting it. -/
def State.take (s : State) : Option String × State :=
  let s := if s.coming.isEmpty then s.opened records else s
  -- A text without lines is passed over.
  let s := if s.coming.isEmpty then s.opened records else s
  match s.coming with
  | [] => (none, s)
  | (first, line) :: coming =>
    let count := fun (s : State) (name : String) (start : Bool) =>
      s.set name (.number ((if start then 0 else (s.get name).toNumber) + 1))
    (some line, count (count { s with coming := coming } "NR" false) "FNR" first)

/-! ## Evaluation -/

/-- The separator of the parts of a key. -/
def keySeparator : String := "\x1c"

def arithmetic (op : String) (x y : Float) : Float :=
  match op with
  | "+" => x + y
  | "-" => x - y
  | "*" => x * y
  | "/" => x / y
  | "%" => x - y * (let q := x / y; if q < 0 then -(-q).floor else q.floor)
  | _ => power x y

/-- How often a loop may go around. -/
def manyRounds : Nat := 1000000

/-- Repeats a step as long as it wants to be. A loop that goes around too often never ends. -/
def rounds (step : State → State × Bool) : (n : Nat) → State → State
  | 0, s => { s with endless := true, fault := true, flow := .exit }
  | n + 1, s =>
    match step s with
    | (s, true) => rounds step n s
    | (s, false) => s

mutual

def eval : (fuel : Nat) → Expr → State → Value × State
  | 0, _, s => (.unset, s.fail)
  | fuel + 1, e, s =>
    match e with
    | .number n => (.number (Printf.readDouble n).1, s)
    | .text t => (.text t, s)
    | .regex r => (ofBool (isFound r s.record), s)
    | .variable name => (s.get name, s)
    | .field e =>
      let (v, s) := eval fuel e s
      let n := (toInt v.toNumber).toNat
      if v.toNumber ≤ -1 then (.unset, s.fail)
      else (.read (if n = 0 then s.record else (s.fields[n - 1]?).getD ""), s)
    | .item array keys =>
      let (key, s) := evalKey fuel keys s
      match (s.items array).lookup key with
      | some v => (v, s)
      | none => (.unset, s.setItem array key .unset)
    | .contains keys array =>
      let (key, s) := evalKey fuel keys s
      (ofBool ((s.items array).any (·.1 = key)), s)
    | .assign op place value =>
      let (v, s) := eval fuel value s
      if op = "=" then (v, store fuel place v s)
      else
        let (old, s) := eval fuel place s
        let v := Value.number (arithmetic (op.take 1).toString old.toNumber v.toNumber)
        (v, store fuel place v s)
    | .choose test yes no =>
      let (v, s) := eval fuel test s
      if v.truth then eval fuel yes s else eval fuel no s
    | .binary op a b =>
      if op = "&&" ∨ op = "||" then
        let (v, s) := eval fuel a s
        if v.truth = (op = "||") then (ofBool v.truth, s)
        else
          let (w, s) := eval fuel b s
          (ofBool w.truth, s)
      else if op = "~" ∨ op = "!~" then
        let (v, s) := eval fuel a s
        let (r, s) := match b with
          | .regex r => (r, s)
          | b => let (w, s) := eval fuel b s; (w.toText, s)
        (ofBool (isFound r v.toText = (op = "~")), s)
      else
        let (v, s) := eval fuel a s
        let (w, s) := eval fuel b s
        match op with
        | "" => (.text (v.toText ++ w.toText), s)
        | "<" => (ofBool (compareValues v w == .lt), s)
        | "<=" => (ofBool (compareValues v w != .gt), s)
        | "==" => (ofBool (compareValues v w == .eq), s)
        | "!=" => (ofBool (compareValues v w != .eq), s)
        | ">" => (ofBool (compareValues v w == .gt), s)
        | ">=" => (ofBool (compareValues v w != .lt), s)
        | op =>
          let fault := (op = "/" ∨ op = "%") ∧ w.toNumber == 0
          if fault then (.unset, s.fail)
          else (.number (arithmetic op v.toNumber w.toNumber), s)
    | .unary op a =>
      let (v, s) := eval fuel a s
      (if op = "!" then ofBool !v.truth
        else .number (if op = "-" then -v.toNumber else v.toNumber), s)
    | .step amount before place =>
      let (v, s) := eval fuel place s
      let new := Value.number (v.toNumber + Float.ofInt amount)
      (if before then new else .number v.toNumber, store fuel place new s)
    | .call name args =>
      match s.functions.find? fun f => f.name = name with
      | none => call fuel name args s
      | some f => apply fuel f args s
    | .take place =>
      match s.take with
      | (none, s) => (.number 0, s)
      | (some line, s) =>
        (.number 1, match place with
          | none => s.setRecord line
          | some e => store fuel e (.read line) s)

/-- The value of a function of the program. Arrays are changed by it, other values are not. -/
def apply : (fuel : Nat) → Function → List Expr → State → Value × State
  | 0, _, _, s => (.unset, s.fail)
  | fuel + 1, f, args, s =>
    let shared : List (String × String) := (f.parameters.zip args).filterMap fun (p, a) =>
      match a with
      | .variable n => if (s.lookupArray n).isSome ∨ (s.vars.lookup n).isNone then some (p, n)
          else none
      | _ => none
    let (vs, s) := evalAll fuel args s
    let inner := (f.parameters.zipIdx).foldl
      (fun (t : State) p =>
        let items := ((shared.lookup p.1).map s.items).getD []
        ({ t with vars := (p.1, (vs[p.2]?).getD .unset) ::
            t.vars.filter (·.1 ≠ p.1) } : State).setItems p.1 items)
      s
    let t := exec fuel f.body { inner with given := .unset }
    let value := t.given
    let t := { t with flow := if t.flow = .given then .on else t.flow, given := s.given }
    let results := shared.map fun (p, n) => (n, t.items p)
    let t := f.parameters.foldl
      (fun (t : State) p =>
        let old := (s.vars.lookup p).map fun v => (p, v)
        { t with
          vars := old.toList ++ t.vars.filter (·.1 ≠ p)
          arrays := ((s.lookupArray p).map fun a => (p, a)).toList
            ++ t.arrays.filter (·.1 ≠ p) })
      t
    (value, results.foldl
      (fun (t : State) r => if r.2.isEmpty ∧ (t.lookupArray r.1).isNone then t
        else t.setItems r.1 r.2)
      t)

def evalKey : (fuel : Nat) → List Expr → State → String × State
  | 0, _, s => ("", s.fail)
  | _ + 1, [], s => ("", s)
  | fuel + 1, [e], s => let (v, s) := eval fuel e s; (v.toText, s)
  | fuel + 1, e :: es, s =>
    let (v, s) := eval fuel e s
    let (key, s) := evalKey fuel es s
    (v.toText ++ keySeparator ++ key, s)

def evalAll : (fuel : Nat) → List Expr → State → List Value × State
  | 0, _, s => ([], s.fail)
  | _ + 1, [], s => ([], s)
  | fuel + 1, e :: es, s =>
    let (v, s) := eval fuel e s
    let (vs, s) := evalAll fuel es s
    (v :: vs, s)

def store : (fuel : Nat) → Expr → Value → State → State
  | 0, _, _, s => s.fail
  | fuel + 1, place, v, s =>
    match place with
    | .variable name => s.set name v
    | .field e =>
      let (n, s) := eval fuel e s
      s.setField (toInt n.toNumber).toNat v.toText
    | .item array keys =>
      let (key, s) := evalKey fuel keys s
      s.setItem array key v
    | _ => s

/-- The value of a function. -/
def call : (fuel : Nat) → String → List Expr → State → Value × State
  | 0, _, _, s => (.unset, s.fail)
  | fuel + 1, name, args, s =>
    let pattern := fun (e : Expr) (s : State) => match e with
      | .regex r => (r, s)
      | e => let (v, s) := eval fuel e s; (v.toText, s)
    match name, args with
    | "", [e] => eval fuel e s
    | "length", [] => (.number (Float.ofNat s.record.length), s)
    | "length", [.variable a] =>
      match s.arrays.lookup a with
      | some items => (.number (Float.ofNat items.length), s)
      | none => (.number (Float.ofNat (s.text a).length), s)
    | "split", e :: .variable a :: more =>
      let (v, s) := eval fuel e s
      let (separator, s) := match more with
        | r :: _ => pattern r s
        | [] => (s.text "FS", s)
      let parts := splitText separator v.toText
      (.number (Float.ofNat parts.length),
        s.setItems a ((parts.zipIdx 1).map fun p => (toString p.2, .read p.1)))
    | "sub", r :: e :: more | "gsub", r :: e :: more =>
      let (r, s) := pattern r s
      let (v, s) := eval fuel e s
      let place := more.head?.getD (.field (.number "0"))
      let (old, s) := eval fuel place s
      match Text.Regex.parse? true r.toList with
      | none => (.number 0, { s with fault := true })
      | some r =>
        let (new, n) := substitute r (name = "gsub") v.toText old.toText
        (.number (Float.ofNat n), if n = 0 then s else store fuel place (.text new) s)
    | "match", [e, r] =>
      let (v, s) := eval fuel e s
      let (r, s) := pattern r s
      match (Text.Regex.parse? true r.toList).bind fun r => r.find? false v.toText.toList with
      | some m =>
        let start := Value.number (Float.ofNat (m.skipped + 1))
        (start, (s.set "RSTART" start).set "RLENGTH" (.number (Float.ofNat m.text.length)))
      | none => (.number 0, (s.set "RSTART" (.number 0)).set "RLENGTH" (.number (-1)))
    | name, args =>
      let (vs, s) := evalAll fuel args s
      let number := fun (k : Nat) => ((vs[k]?).getD .unset).toNumber
      let text := fun (k : Nat) => ((vs[k]?).getD .unset).toText
      (match name with
        | "length" => .number (Float.ofNat (text 0).length)
        | "substr" =>
          let start := toInt (number 1)
          let length : Int := if vs.length < 3 then (text 0).length else toInt (number 2)
          let length := if start < 1 then length - start else length
          .text (((text 0).drop (start - 1).toNat).take length.toNat).toString
        | "index" =>
          let t := (text 1).toList
          let found := (List.range ((text 0).length + 1)).find? fun k =>
            t.isPrefixOf ((text 0).toList.drop k)
          .number (Float.ofNat ((found.map (· + 1)).getD 0))
        | "toupper" => .text ((text 0).map Char.toUpper)
        | "tolower" => .text ((text 0).map Char.toLower)
        | "sprintf" => .text (format vs).1
        | "int" => .number (Float.ofInt (toInt (number 0)))
        | "sqrt" => .number (number 0).sqrt
        | "exp" => .number (number 0).exp
        | "log" => .number (number 0).log
        | "sin" => .number (number 0).sin
        | "cos" => .number (number 0).cos
        | "atan2" => .number (Float.atan2 (number 0) (number 1))
        | _ => .number 0, s)

/-- Carries out a statement. -/
def exec : (fuel : Nat) → Stmt → State → State
  | 0, _, s => s.fail
  | fuel + 1, stmt, s =>
    if s.flow ≠ .on then s
    else match stmt with
    | .nothing => s
    | .expr e => (eval fuel e s).2
    | .print args silent =>
      let (vs, s) := evalAll fuel args s
      let text := if args.isEmpty then s.record
        else (s.text "OFS").intercalate (vs.map Value.toText)
      if silent ∨ s.flow ≠ .on then s else s.print (text ++ s.text "ORS")
    | .printf args silent =>
      let (vs, s) := evalAll fuel args s
      let (text, enough) := format vs
      let s := if silent ∨ s.flow ≠ .on then s else s.print text
      if enough then s else s.fail
    | .sequence a b => exec fuel b (exec fuel a s)
    | .branch test yes no =>
      let (v, s) := eval fuel test s
      exec fuel (if v.truth then yes else no) s
    | .loop test body after first =>
      let round := fun (asks : Bool) (s : State) =>
        let (v, s) : Value × State := if asks then eval fuel test s else (.number 1, s)
        if ¬ v.truth ∨ s.flow ≠ .on then (s, false)
        else
          let s := exec fuel body s
          match s.flow with
          | .leave => ({ s with flow := .on }, false)
          | .on | .again => (exec fuel after { s with flow := .on }, true)
          | _ => (s, false)
      match round first s with
      | (s, true) => rounds (round true) manyRounds s
      | (s, false) => s
    | .forEach name array body =>
      (s.items array).foldl
        (fun s p =>
          if s.flow ≠ .on then s
          else
            let s := exec fuel body (s.set name (.read p.1))
            if s.flow = .again then { s with flow := .on } else s)
        s |> fun s => if s.flow = .leave then { s with flow := .on } else s
    | .delete array none => s.setItems array []
    | .delete array (some keys) =>
      let (key, s) := evalKey fuel keys s
      s.setItems array ((s.items array).filter (·.1 ≠ key))
    | .leave => { s with flow := .leave }
    | .again => { s with flow := .again }
    | .next => { s with flow := .next }
    | .exit none => { s with flow := .exit }
    | .exit (some e) =>
      let (v, s) := eval fuel e s
      { s with flow := .exit, status := ((toInt v.toNumber) % 256).toNat }
    | .give none => { s with flow := .given }
    | .give (some e) =>
      let (v, s) := eval fuel e s
      if s.flow = .on then { s with flow := .given, given := v } else s

end

/-- Steps that are enough for a program that ends soon. -/
def enough : Nat := 20000

/-- A rule is meant for the current line. -/
def Rule.meant (r : Rule) (k : Nat) (s : State) : Bool × State :=
  match r.pattern with
  | .begins | .ends => (false, s)
  | .always => (true, s)
  | .holds e =>
    let (v, s) := eval enough e s
    (v.truth, s)
  | .between a b =>
    let (inside, s) : Bool × State :=
      if s.ranges.contains k then (true, s)
      else let (v, s) := eval enough a s; (v.truth, s)
    if ¬ inside then (false, s)
    else
      let (v, s) := eval enough b s
      (true, { s with ranges := if v.truth then s.ranges.filter (· ≠ k)
        else if s.ranges.contains k then s.ranges else k :: s.ranges })

/-- Carries out the rules for one line. -/
def onLine (rules : List (Rule × Nat)) (s : State) : State :=
  let s := rules.foldl
    (fun s (r, k) =>
      if s.flow ≠ .on then s
      else
        let (meant, s) := r.meant k s
        if meant then exec enough r.action s else s)
    s
  if s.flow = .next then { s with flow := .on } else s

/-- Carries out the rules for the beginning or the end. -/
def atEdge (rules : List Rule) (isMeant : Pattern → Bool) (s : State) : State :=
  rules.foldl (fun s r => if isMeant r.pattern then exec enough r.action s else s) s

def isBegin : Pattern → Bool
  | .begins => true
  | _ => false

def isEnd : Pattern → Bool
  | .ends => true
  | _ => false

/-- The values that variables have before anything else. -/
def initial : List (String × Value) :=
  [("FS", .text " "), ("OFS", .text " "), ("ORS", .text "\n"), ("RS", .text "\n"),
   ("NR", .number 0), ("FNR", .number 0), ("SUBSEP", .text keySeparator)]

end Awk

/-- A variable that is set in front, such as `v=1`. -/
def awkSetting? (s : String) : Option (String × String) :=
  let name := s.toList.takeWhile Awk.isNameChar
  match s.toList.drop name.length with
  | '=' :: value =>
    if name.isEmpty ∨ name.head?.any Char.isDigit then none
    else some (String.ofList name, (({ quotes := true } : Text.Escapes).expand
      (String.ofList value)).1)
  | _ => none

/-- Carries out the rules on line after line. -/
def Awk.overLines (rules : List (Awk.Rule × Nat)) : (fuel : Nat) → Awk.State → Awk.State
  | 0, s => s
  | fuel + 1, s =>
    if s.flow = .exit then s
    else match s.take with
      | (none, s) => s
      | (some line, s) => overLines rules fuel (Awk.onLine rules (s.setRecord line))

/-- Carries out a program of rules on the input or on files. -/
def awk (c : Call) : Effect :=
  match c.options { valued := "Fv", long := [("field-separator", 'F'), ("assign", 'v')] } false with
  | .error why => c.misused why 2
  | .ok o =>
    match o.operands with
    | [] => c.fails "usage: awk [-F value] [-v var=value] 'program' [file ...]" 0
    | text :: operands =>
      match Awk.readProgram? text with
      | none => c.fails "syntax error" 2
      | some program =>
        let rules := program.rules
        let environment := c.environment.map fun (n, v) => (n, Awk.Value.read v)
        let s : Awk.State := { vars := Awk.initial, functions := program.functions
                               arrays := [("ENVIRON", environment)] }
        let separator := fun v : String => if v = "t" then "\t"
          else ((({} : Text.Escapes).expand v).1)
        let setting := fun (s : Awk.State) (a : String) => match awkSetting? a with
          | some (name, v) => s.set name (.read v)
          | none => s
        let s := o.given.foldl
          (fun s p => if p.1 = 'F' then s.set "FS" (.text (separator p.2)) else setting s p.2) s
        let (settings, files) := operands.partition fun a => (awkSetting? a).isSome
        let (contents, errors) := c.contents files
        let s := Awk.atEdge rules Awk.isBegin { s with unopened := contents.map (·.2) }
        let reads := rules.any fun r => !Awk.isBegin r.pattern
        let lines := contents.foldl (fun n p => n + (p.2.length + 1)) 1
        let s := if reads then
            Awk.overLines rules.zipIdx lines (settings.foldl setting s)
          else s
        let stopped := s.flow = .exit
        let s := if stopped ∧ s.fault ∨ ¬ reads then s
          else Awk.atEdge rules Awk.isEnd { s with flow := .on }
        let seen := s.unopened.length < contents.length
        let left := unlines (s.coming.map fun p => p.2.toList)
        let errors := if reads then errors else ""
        let e : Effect :=
          { output := String.join s.out.reverse, errors := errors
            rest := if ¬ files.isEmpty ∨ ¬ seen then some c.input
              else if stopped ∨ ¬ reads then some left else none
            block := 4096
            status := if errors ≠ "" ∧ s.status = 0 then 2 else s.status }
        if s.endless then e.unending else e

end SessionWatch.Utility
