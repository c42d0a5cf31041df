/-
# Programs for lines, fields and characters

Key definitions: `Utility.tr`, `Utility.cut`, `Utility.sort`, `Utility.uniq`.
-/
import SessionWatch.Text.CharClass
import SessionWatch.Text.Escape
import SessionWatch.Utility.Basic

namespace SessionWatch.Utility

/-! ## Characters -/

/-- The characters of a class, in their order. -/
def classChars (name : String) : List Char :=
  ((List.range 256).map Char.ofNat).filter (Text.CharSet.isIn name)

/-- The characters of a set as it is written for `tr`: escapes, ranges, classes, repetitions. A
repetition without a count is as long as `fill`. -/
def trSet (fill : Nat) : (fuel : Nat) → List Char → List Char
  | 0, _ | _, [] => []
  | fuel + 1, '[' :: ':' :: cs =>
    let name := cs.takeWhile Char.isAlpha
    match cs.drop name.length with
    | ':' :: ']' :: rest => classChars (String.ofList name) ++ trSet fill fuel rest
    | _ => '[' :: trSet fill fuel (':' :: cs)
  | fuel + 1, '[' :: c :: '*' :: cs =>
    let ds := cs.takeWhile Char.isDigit
    match cs.drop ds.length with
    | ']' :: rest =>
      List.replicate (if ds.isEmpty then fill else digitsValue ds) c ++ trSet fill fuel rest
    | _ => '[' :: trSet fill fuel (c :: '*' :: cs)
  | fuel + 1, c :: cs =>
    let read := fun (cs : List Char) => match cs with
      | '\\' :: rest => match ({} : Text.Escapes).read? rest with
        | some ([d], rest) => (some d, rest)
        | _ => (rest.head?, rest.drop 1)
      | c :: rest => (some c, rest)
      | [] => (none, [])
    match read (c :: cs) with
    | (none, _) => ['\\']
    | (some a, '-' :: rest) =>
      match read rest with
      | (some b, rest) =>
        (List.range (b.toNat + 1 - a.toNat)).map (fun k => Char.ofNat (a.toNat + k))
          ++ trSet fill fuel rest
      | (none, _) => [a, '-']
    | (some a, rest) => a :: trSet fill fuel rest

/-- Puts one character in the place of several equal ones of a set. -/
def squeeze (set : List Char) : (before : Option Char) → List Char → List Char
  | _, [] => []
  | before, c :: cs =>
    if before = some c ∧ set.contains c then squeeze set before cs
    else c :: squeeze set (some c) cs

/-- Replaces the characters of one set by those of another, deletes them, or squeezes them. -/
def tr (c : Call) : Effect :=
  match c.options { flags := "cCdst", long := [("delete", 'd'), ("complement", 'c'),
      ("squeeze-repeats", 's')] } false with
  | .error why => c.misused why 1
  | .ok o =>
    let set := fun (fill : Nat) (s : String) => trSet fill (s.length + 1) s.toList
    let all := (List.range 256).map Char.ofNat
    let first := fun s : String =>
      let cs := set 0 s
      if o.has 'c' ∨ o.has 'C' then all.filter fun d => !cs.contains d else cs
    let finish := fun (out : List Char) => ({ output := String.ofList out, rest := none } : Effect)
    match o.operands with
    | [] => c.fails "missing operand" 1
    | [a] =>
      if o.has 'd' ∧ ¬ o.has 's' then
        let a := first a
        finish (c.input.filter fun d => !a.contains d)
      else if o.has 's' ∧ ¬ o.has 'd' then finish (squeeze (first a) none c.input)
      else c.fails "missing operand" 1
    | [a, b] =>
      let a := first a
      let b := set (a.length - ((set 0 b).length)) b
      if o.has 'd' then
        if o.has 's' then finish (squeeze b none (c.input.filter fun d => !a.contains d))
        else c.fails "extra operand" 1
      else
        match b.getLast? with
        | none => c.fails "when not truncating set1, string2 must be non-empty" 1
        | some last =>
          let map := fun d : Char => match (a.reverse.findIdx? (· = d)) with
            | none => d
            | some k =>
              let place := a.length - 1 - k
              if o.has 't' ∧ b.length ≤ place then d else (b[place]?).getD last
          let out := c.input.map map
          finish (if o.has 's' then squeeze b none out else out)
    | _ => c.fails "extra operand" 1

/-! ## Fields -/

/-- Ranges of places, counted from one; a range without an end goes on for ever. -/
abbrev Places := List (Nat × Option Nat)

/-- A list of places and ranges, such as `1,3-5,7-`. -/
def readPlaces? (s : String) : Option Places :=
  (split ',' s.toList).mapM fun part =>
    match split '-' part with
    | [a] => (number? (String.ofList a)).bind fun n => if n = 0 then none else some (n, some n)
    | [a, b] =>
      match a.isEmpty, b.isEmpty with
      | true, true => none
      | true, false => (number? (String.ofList b)).map fun n => (1, some n)
      | false, true => (number? (String.ofList a)).map fun n => (n, none)
      | false, false =>
        match number? (String.ofList a), number? (String.ofList b) with
        | some m, some n => if n < m then none else some (m, some n)
        | _, _ => none
    | _ => none

def isAmong (ps : Places) (n : Nat) : Bool := ps.any fun p => p.1 ≤ n && p.2.all (n ≤ ·)

/-- The items whose places are wanted. -/
def pick {α : Type} (wanted : Nat → Bool) (items : List α) : List α :=
  ((items.zipIdx 1).filter fun p => wanted p.2).map Prod.fst

/-- Prints parts of every line. -/
def cut (c : Call) : Effect :=
  match c.options { flags := "snz", valued := "bcfdO", long := [("delimiter", 'd'),
      ("fields", 'f'), ("bytes", 'b'), ("characters", 'c'), ("only-delimited", 's'),
      ("output-delimiter", 'O'), ("complement", 'n')] } true with
  | .error why => c.misused why 1
  | .ok o =>
    let keep := fun (ps : Places) (n : Nat) => isAmong ps n != o.has 'n'
    let apply := fun (f : List Char → Option (List Char)) =>
      c.maps o.operands fun cs => unlines ((Lines.ofChars cs).lines.filterMap f)
    match (o.value? 'f').map readPlaces?, ((o.value? 'b').or (o.value? 'c')).map readPlaces? with
    | some (some ps), none =>
      match (o.value? 'd').map String.toList with
      | none | some [_] =>
        let d := ((o.value? 'd').bind fun s => s.toList.head?).getD '\t'
        let between := ((o.value? 'O').map String.toList).getD [d]
        apply fun line =>
          if line.contains d then
            some (List.flatten ((pick (keep ps) (split d line)).intersperse between))
          else if o.has 's' then none else some line
      | some _ => c.fails "the delimiter must be a single character" 1
    | none, some (some ps) => apply fun line => some (pick (keep ps) line)
    | _, _ => c.fails "invalid field value" 1

/-! ## Order -/

/-- What lines are compared by. -/
structure SortKey where
  /-- The first field and character of it, and the last ones; the key goes to the end of the
  line without them. -/
  first : Nat × Nat := (1, 1)
  last : Option (Nat × Nat) := none
  numeric : Bool := false
  folded : Bool := false
  blanks : Bool := false
  dictionary : Bool := false
  reversed : Bool := false

def SortKey.flag (k : SortKey) (c : Char) : SortKey :=
  match c with
  | 'n' | 'g' | 'h' => { k with numeric := true }
  | 'f' => { k with folded := true }
  | 'b' => { k with blanks := true }
  | 'd' => { k with dictionary := true }
  | 'r' => { k with reversed := true }
  | _ => k

/-- The fields of a line: a separator stands between them, or the blanks in front of a field
belong to it. -/
def sortFields (separator : Option Char) (line : List Char) : List (List Char) :=
  match separator with
  | some d => split d line
  | none =>
    let (field, done, _) := line.foldl
      (fun (acc : List Char × List (List Char) × Bool) c =>
        let blank := c = ' ' || c = '\t'
        if blank ∧ acc.2.2 then ([c], acc.1.reverse :: acc.2.1, false)
        else (c :: acc.1, acc.2.1, !blank))
      ([], [], false)
    (field.reverse :: done).reverse

/-- The part of a line that a key names. -/
def SortKey.part (k : SortKey) (separator : Option Char) (line : List Char) : List Char :=
  let fields := sortFields separator line
  let between := separator.toList
  let (f, c) := k.first
  let whole := match k.last with
    | none => (fields.drop (f - 1)).intersperse between
    | some (l, m) =>
      let upTo := (fields.take l).drop (f - 1)
      if m = 0 then upTo.intersperse between
      else match upTo.reverse with
        | last :: front => ((last.take m) :: front).reverse.intersperse between
        | [] => []
  let text := List.flatten whole
  let text := if k.blanks then text.dropWhile fun c => c = ' ' || c = '\t' else text
  text.drop (c - 1)

/-- The number that a text begins with, in units of ten to the minus twelfth. -/
def leadingNumber (cs : List Char) : Int :=
  let cs := cs.dropWhile fun c => c = ' ' || c = '\t'
  let (negative, cs) : Bool × List Char := match cs with
    | '-' :: cs => (true, cs)
    | cs => (false, cs)
  let whole := cs.takeWhile Char.isDigit
  let part := match cs.drop whole.length with
    | '.' :: ds => (ds.takeWhile Char.isDigit).take 12
    | _ => []
  let n : Int := digitsValue (whole ++ part) * Nat.pow 10 (12 - part.length)
  if negative then -n else n

/-- The order of characters, one after the other. -/
def compareChars : List Char → List Char → Ordering
  | [], [] => .eq
  | [], _ :: _ => .lt
  | _ :: _, [] => .gt
  | a :: as, b :: bs =>
    match compare a.toNat b.toNat with
    | .eq => compareChars as bs
    | o => o

def SortKey.compare (k : SortKey) (separator : Option Char) (a b : List Char) : Ordering :=
  let a := k.part separator a
  let b := k.part separator b
  let clean := fun (cs : List Char) =>
    let cs := if k.dictionary then cs.filter fun c => c.isAlphanum || c = ' ' || c = '\t' else cs
    if k.folded then cs.map Char.toUpper else cs
  let o := if k.numeric then Ord.compare (leadingNumber a) (leadingNumber b)
    else compareChars (clean a) (clean b)
  if k.reversed then o.swap else o

/-- A place in a key, such as `2.3`, and its letters. -/
def readKeyPlace? (s : List Char) : Option (Nat × Nat × List Char) :=
  let field := s.takeWhile Char.isDigit
  match s.drop field.length with
  | '.' :: cs =>
    let char := cs.takeWhile Char.isDigit
    some (digitsValue field, digitsValue char, cs.drop char.length)
  | cs => if field.isEmpty then none else some (digitsValue field, 0, cs)

/-- A key as it is given with `-k`; letters of its own stand for those of the call. -/
def SortKey.read? (whole : SortKey) (s : String) : Option SortKey :=
  let made := fun (first : Nat × Nat) (last : Option (Nat × Nat)) (letters : List Char) =>
    if letters.isEmpty then { whole with first := first, last := last }
    else letters.foldl SortKey.flag { first := first, last := last }
  match split ',' s.toList with
  | [a] => (readKeyPlace? a).map fun (f, c, letters) => made (f, max c 1) none letters
  | [a, b] =>
    match readKeyPlace? a, readKeyPlace? b with
    | some (f, c, letters), some (g, d, more) => some (made (f, max c 1) (some (g, d)) (letters ++ more))
    | _, _ => none
  | _ => none

/-- The first decision of several. -/
def firstDecision : List Ordering → Ordering
  | [] => .eq
  | .eq :: os => firstDecision os
  | o :: _ => o

/-- Drops a line that is equal to the one before it. -/
def dropEqual (same : List Char → List Char → Bool) : List (List Char) → List (List Char)
  | a :: b :: rest =>
    if same a b then dropEqual same (a :: rest) else a :: dropEqual same (b :: rest)
  | lines => lines
termination_by lines => lines.length

/-- Prints lines in order. -/
def sort (c : Call) : Effect :=
  match c.options { flags := "nrufbdcghsmMiR", valued := "ktoST", long := [("numeric-sort", 'n'),
      ("reverse", 'r'), ("unique", 'u'), ("ignore-case", 'f'), ("key", 'k'),
      ("field-separator", 't'), ("check", 'c'), ("stable", 's')] } true with
  | .error why => c.misused why 2
  | .ok o =>
    let whole := (o.given.map Prod.fst).foldl SortKey.flag {}
    match (o.given.filter (·.1 = 'k')).mapM fun p => SortKey.read? whole p.2 with
    | none => c.fails "invalid field specification" 2
    | some keys =>
      let separator := (o.value? 't').bind fun s => s.toList.head?
      let keys := if keys.isEmpty then [whole] else keys
      let byKeys := fun a b : List Char => firstDecision (keys.map fun k => k.compare separator a b)
      let final := fun a b : List Char =>
        if o.has 'u' ∨ o.has 's' then .eq
        else if whole.reversed then (compareChars a b).swap else compareChars a b
      let before := fun a b : List Char => firstDecision [byKeys a b, final a b]
      let sorted := fun cs : List Char =>
        let lines := (Lines.ofChars cs).lines.mergeSort fun a b => before a b != .gt
        if o.has 'u' then dropEqual (fun a b => byKeys a b == .eq) lines else lines
      if o.has 'c' then
        let (contents, errors) := c.contents o.operands
        let lines := contents.flatMap fun p => (Lines.ofChars p.2).lines
        let bad := (lines.zip (lines.drop 1)).any fun (a, b) =>
          before a b == .gt || (o.has 'u' && byKeys a b == .eq)
        { errors := errors, rest := c.after o.operands
          status := if errors ≠ "" then 2 else if bad then 1 else 0 }
      else
        let e := c.maps o.operands fun cs => unlines (sorted cs)
        if e.status = 0 then e else { e with status := 2, output := "" }

/-- Lines in groups of equal ones. -/
def groups (same : List Char → List Char → Bool) (lines : List (List Char)) :
    List (List Char × Nat) :=
  (lines.foldl
    (fun (acc : List (List Char × Nat)) line =>
      match acc with
      | (first, n) :: rest => if same first line then (first, n + 1) :: rest else (line, 1) :: acc
      | [] => [(line, 1)])
    []).reverse

/-- Prints one line of several equal ones that follow each other. -/
def uniq (c : Call) : Effect :=
  match c.options { flags := "cduiD", valued := "fsw", long := [("count", 'c'), ("repeated", 'd'),
      ("unique", 'u'), ("ignore-case", 'i')] } true with
  | .error why => c.misused why 1
  | .ok o =>
    let skipFields := ((o.value? 'f').bind number?).getD 0
    let skipChars := ((o.value? 's').bind number?).getD 0
    let width := (o.value? 'w').bind number?
    let key := fun line : List Char =>
      let line := (List.range skipFields).foldl
        (fun cs _ => (cs.dropWhile fun c => c = ' ' || c = '\t').dropWhile
          fun c => c ≠ ' ' && c ≠ '\t') line
      let line := line.drop skipChars
      let line := match width with
        | some n => line.take n
        | none => line
      if o.has 'i' then line.map Char.toLower else line
    c.maps (o.operands.take 1) fun cs =>
      let all := groups (fun a b => key a = key b) (Lines.ofChars cs).lines
      let chosen := all.filter fun g =>
        (!o.has 'd' || 1 < g.2) && (!o.has 'u' || g.2 = 1)
      unlines (chosen.map fun g =>
        (if o.has 'c' then (padLeft 7 ' ' (toString g.2) ++ " ").toList else []) ++ g.1)

end SessionWatch.Utility
