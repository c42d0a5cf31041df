/-
# Programs that show a text or a part of it

Key definitions: `Utility.cat`, `Utility.head`, `Utility.tail`, `Utility.wc`,
`Utility.number`, `Utility.fold`, `Utility.paste`.
-/
import SessionWatch.Utility.Basic

namespace SessionWatch.Utility

/-! ## Whole texts -/

/-- How a character is shown that is no printing one. -/
def visible (tabs : Bool) (c : Char) : List Char :=
  let n := c.toNat
  let (mark, n) : List Char × Nat := if 128 ≤ n then ("M-".toList, n - 128) else ([], n)
  if n = 0x7F then mark ++ ['^', '?']
  else if n < 0x20 ∧ (tabs ∨ c ≠ '\t') ∧ c ≠ '\n' then mark ++ ['^', Char.ofNat (n + 0x40)]
  else mark ++ [Char.ofNat n]

/-- Numbers lines from one on, all of them or those that are not empty. -/
def numberLines (all : Bool) (lines : List (List Char)) : List (List Char) :=
  (lines.foldl
    (fun (acc : Nat × List (List Char)) line =>
      if line.isEmpty ∧ ¬ all then (acc.1, line :: acc.2)
      else (acc.1 + 1, ((padLeft 6 ' ' (toString acc.1) ++ "\t").toList ++ line) :: acc.2))
    (1, [])).2.reverse

/-- Puts one empty line in the place of several. -/
def squeezeLines : (before : Bool) → List (List Char) → List (List Char)
  | _, [] => []
  | before, line :: lines =>
    if line.isEmpty ∧ before then squeezeLines true lines
    else line :: squeezeLines line.isEmpty lines

/-- Prints files as they are, or with marks in them. -/
def cat (c : Call) : Effect :=
  match c.options { flags := "AbeEnstTuv", long := [("number", 'n'), ("squeeze-blank", 's')] }
      true with
  | .error why => c.misused why 1
  | .ok o =>
    let has := fun letters : String => letters.toList.any o.has
    c.maps o.operands fun cs =>
      if o.given.all (·.1 = 'u') then cs
      else
        let l := Lines.ofChars cs
        let lines := if o.has 's' then squeezeLines false l.lines else l.lines
        let lines := if has "vAetT" then lines.map (·.flatMap (visible (has "AtT"))) else lines
        let whole := if l.closed then lines.length else lines.length - 1
        let lines := if has "AeE" then
            (lines.take whole).map (· ++ ['$']) ++ lines.drop whole
          else lines
        let lines := if has "nb" then numberLines (!o.has 'b') lines else lines
        ({ l with lines := lines } : Lines).toChars

/-- Prints the lines of files in the opposite order. -/
def tac (c : Call) : Effect :=
  match c.options {} true with
  | .error why => c.misused why 1
  | .ok o => c.maps o.operands fun cs =>
      let l := Lines.ofChars cs
      match l.lines.reverse, l.closed with
      | last :: rest, false => last ++ unlines rest
      | lines, _ => unlines lines

/-- Prints each line backwards. -/
def rev (c : Call) : Effect :=
  c.maps c.args fun cs =>
    let l := Lines.ofChars cs
    ({ l with lines := l.lines.map List.reverse } : Lines).toChars

/-! ## Parts of texts -/

/-- How much of a text is meant. -/
structure Amount where
  /-- Bytes instead of lines. -/
  bytes : Bool := false
  count : Nat := 10
  /-- For a beginning: all but that many at the end. For an end: from that one on. -/
  other : Bool := false

/-- A count, and whether it has a mark in front. -/
def Amount.read? (mark : Char) (bytes : Bool) (s : String) : Option Amount :=
  match s.toList with
  | c :: cs =>
    if c = mark then (number? (String.ofList cs)).map fun n => ⟨bytes, n, true⟩
    else if c = '-' ∨ c = '+' then (number? (String.ofList cs)).map fun n => ⟨bytes, n, false⟩
    else (number? s).map fun n => ⟨bytes, n, false⟩
  | [] => none

/-- The amount and the operands of a call, or a complaint; an argument such as `-5` is a count of
lines. -/
def Call.amount (c : Call) (mark : Char) : Except Effect (Amount × List String) :=
  let args := match c.args with
    | a :: rest =>
      match a.toList with
      | '-' :: d :: ds =>
        if (d :: ds).all Char.isDigit then "-n" :: String.ofList (d :: ds) :: rest else a :: rest
      | _ => a :: rest
    | [] => []
  match ({ c with args := args } : Call).options
      { flags := "qvf", valued := "nc", long := [("lines", 'n'), ("bytes", 'c')] } true with
  | .error why => .error (c.misused why 1)
  | .ok o =>
    let given := o.given.filter fun p => p.1 = 'n' || p.1 = 'c'
    match given.getLast? with
    | none => .ok ({}, o.operands)
    | some (letter, v) =>
      match Amount.read? mark (letter = 'c') v with
      | some a => .ok (a, o.operands)
      | none =>
        let unit := if letter = 'c' then "bytes" else "lines"
        .error (c.fails ("invalid number of " ++ unit ++ ": '" ++ v ++ "'") 1)

def Amount.beginning (a : Amount) (cs : List Char) : List Char :=
  if a.bytes then cs.take (if a.other then cs.length - a.count else a.count)
  else
    let l := Lines.ofChars cs
    let n := if a.other then l.lines.length - a.count else a.count
    if l.lines.length ≤ n then cs else unlines (l.lines.take n)

def Amount.ending (a : Amount) (cs : List Char) : List Char :=
  if a.bytes then cs.drop (if a.other then a.count - 1 else cs.length - a.count)
  else
    let l := Lines.ofChars cs
    let before := if a.other then a.count - 1 else l.lines.length - a.count
    ({ l with lines := l.lines.drop before } : Lines).toChars

/-- Parts of files, each under its name if there are several. -/
def Call.parts (c : Call) (operands : List String) (f : List Char → List Char) : Effect :=
  let (contents, errors) := c.contents operands
  let part := fun (p : String × List Char) =>
    if operands.length ≤ 1 then f p.2 else ("==> " ++ p.1 ++ " <==\n").toList ++ f p.2
  { output := String.ofList ((contents.map part).intersperse ['\n']).flatten
    errors := errors
    rest := c.after operands, status := if errors = "" then 0 else 1 }

/-- Prints the beginning of files. -/
def head (c : Call) : Effect :=
  match c.amount '-' with
  | .error e => e
  | .ok (a, operands) =>
    let e := c.parts operands a.beginning
    if operands.isEmpty ∧ ¬ a.other then
      let needed := (a.beginning c.input).length
      let enough := if a.bytes then a.count ≤ c.input.length else a.count ≤ c.input.count '\n'
      { e with rest := if enough then some (c.input.drop needed) else none, block := 8192 }
    else e

/-- Prints the end of files. -/
def tail (c : Call) : Effect :=
  match c.amount '+' with
  | .error e => e
  | .ok (a, operands) => c.parts operands a.ending

/-- A number of bytes, which may be counted in larger units. -/
def byteCount? (s : String) : Option Nat :=
  let units : List (Char × Nat) := [('c', 1), ('w', 2), ('b', 512), ('k', 1024), ('K', 1024),
    ('M', 1048576)]
  match s.toList.reverse with
  | u :: ds =>
    match units.lookup u with
    | some n => (number? (String.ofList ds.reverse)).map (· * n)
    | none => number? s
  | [] => none

/-- Copies blocks of a file. -/
def dd (c : Call) : Effect :=
  let settings := c.args.map fun a =>
    let name := (a.toList.takeWhile (· ≠ '='))
    (String.ofList name, String.ofList (a.toList.drop (name.length + 1)))
  let number := fun (name : String) (standard : Nat) =>
    ((settings.lookup name).bind byteCount?).getD standard
  let size := number "bs" (number "ibs" 512)
  match c.open ((settings.lookup "if").getD "-") with
  | .error f => c.fails ("failed to open '" ++ (settings.lookup "if").getD "" ++ "': " ++ describe f) 1
  | .ok cs =>
    let whole := cs.drop (number "skip" 0 * size)
    let part := match settings.lookup "count" with
      | some _ => whole.take (number "count" 0 * size)
      | none => whole
    let used := number "skip" 0 * size + part.length
    { output := String.ofList part
      rest := if (settings.lookup "if").isSome then some c.input
        else if part.length < whole.length then some (cs.drop used) else none }

/-- Puts blanks in the place of tabs. -/
def expand (c : Call) : Effect :=
  match c.options { flags := "i", valued := "t" } true with
  | .error why => c.misused why 1
  | .ok o =>
    let width := max 1 (((o.value? 't').bind number?).getD 8)
    c.maps o.operands fun cs =>
      (cs.foldl
        (fun (acc : List Char × Nat) ch =>
          if ch = '\t' then
            let n := width - acc.2 % width
            (List.replicate n ' ' ++ acc.1, acc.2 + n)
          else (ch :: acc.1, if ch = '\n' then 0 else acc.2 + 1))
        ([], 0)).1.reverse

/-- The lines of two sorted texts in one order, each with the number of the column for those of
the first text, of the second, and of both. -/
def merged : (fuel : Nat) → List (List Char) → List (List Char) → List (Nat × List Char)
  | 0, _, _ => []
  | _ + 1, [], bs => bs.map (2, ·)
  | _ + 1, as, [] => as.map (1, ·)
  | fuel + 1, a :: as, b :: bs =>
    if a = b then (3, a) :: merged fuel as bs
    else if String.ofList a < String.ofList b then (1, a) :: merged fuel as (b :: bs)
    else (2, b) :: merged fuel (a :: as) bs

/-- Compares two sorted files line by line. -/
def comm (c : Call) : Effect :=
  match c.options { flags := "123" } true with
  | .error why => c.misused why 1
  | .ok o =>
    let (contents, errors) := c.contents o.operands
    let hidden := [o.has '1', o.has '2', o.has '3']
    let lines := contents.map fun p => (Lines.ofChars p.2).lines
    match lines with
    | [as, bs] =>
      let rows := (merged (as.length + bs.length + 1) as bs).filter fun p =>
        !(hidden[p.1 - 1]?).getD false
      let lead := fun (n : Nat) => List.replicate ((hidden.take (n - 1)).count false) '\t'
      { output := String.ofList (unlines (rows.map fun p => lead p.1 ++ p.2)), errors := errors
        rest := c.after o.operands, status := if errors = "" then 0 else 1 }
    | _ => c.fails "missing operand" 1

/-! ## Counts -/

/-- The length of the longest line. -/
def longestLine (cs : List Char) : Nat :=
  ((Lines.ofChars cs).lines.map List.length).foldl max 0

/-- Counts lines, words, characters, bytes. -/
def wc (c : Call) : Effect :=
  match c.options { flags := "lwcmL", long := [("lines", 'l'), ("words", 'w'), ("bytes", 'c'),
      ("chars", 'm'), ("max-line-length", 'L')] } true with
  | .error why => c.misused why 1
  | .ok o =>
    let counts := fun cs : List Char =>
      [('l', cs.count '\n'), ('w', (words cs).length), ('m', cs.length), ('c', cs.length),
        ('L', longestLine cs)]
    let wanted := fun p : Char × Nat =>
      if o.given.isEmpty then "lwc".toList.contains p.1 else o.has p.1
    let (contents, errors) := c.contents o.operands
    let rows := contents.map fun p => (p.1, ((counts p.2).filter wanted).map Prod.snd)
    let total := (List.range 5).filterMap fun k =>
      if rows.all fun r => k < r.2.length then
        some (rows.foldl (fun n r => n + (r.2[k]?).getD 0) 0) else none
    let rows := if o.operands.length ≤ 1 then rows else rows ++ [("total", total)]
    let single := rows.length = 1 ∧ rows.all fun r => r.2.length = 1
    let widest := (rows.flatMap fun r => r.2.map fun n => (toString n).length).foldl max 1
    let width := if single then 1
      else if o.operands.isEmpty ∨ o.operands.contains "-" then 7 else widest
    { output := String.join (rows.map fun r =>
        " ".intercalate (r.2.map fun n => padLeft width ' ' (toString n))
          ++ (if o.operands.isEmpty then "" else " " ++ r.1) ++ "\n")
      errors := errors, rest := c.after o.operands, status := if errors = "" then 0 else 1 }

/-! ## Layout -/

/-- Numbers the lines that are not empty. -/
def number (c : Call) : Effect :=
  match c.options { valued := "bnsvwi" } true with
  | .error why => c.misused why 1
  | .ok o =>
    let width := ((o.value? 'w').bind number?).getD 6
    let start := ((o.value? 'v').bind number?).getD 1
    let step := ((o.value? 'i').bind number?).getD 1
    let gap := (o.value? 's').getD "\t"
    let all := o.value? 'b' = some "a"
    c.maps o.operands fun cs =>
      unlines ((Lines.ofChars cs).lines.foldl
        (fun (acc : Nat × List (List Char)) line =>
          if o.value? 'b' = some "n" ∨ (line.isEmpty ∧ ¬ all) then
            (acc.1, (List.replicate (width + gap.length) ' ' ++ line) :: acc.2)
          else (acc.1 + step,
            ((padLeft width ' ' (toString acc.1) ++ gap).toList ++ line) :: acc.2))
        (start, [])).2.reverse

/-- A line cut into pieces of a length, or of a length at most where a blank can end them. -/
def foldLine (width : Nat) (atBlanks : Bool) : (fuel : Nat) → List Char → List (List Char)
  | 0, line => [line]
  | fuel + 1, line =>
    if line.length ≤ width then [line]
    else
      let piece := line.take width
      let kept := (piece.reverse.dropWhile (· ≠ ' ')).length
      let n := if atBlanks ∧ 0 < kept then kept else width
      line.take n :: foldLine width atBlanks fuel (line.drop n)

def fold (c : Call) : Effect :=
  match c.options { flags := "sb", valued := "w" } true with
  | .error why => c.misused why 1
  | .ok o =>
    let width := max 1 (((o.value? 'w').bind number?).getD 80)
    c.maps o.operands fun cs =>
      let l := Lines.ofChars cs
      ({ l with lines := l.lines.flatMap fun line => foldLine width (o.has 's') line.length line }
        : Lines).toChars

/-- Joins texts with separators that are used in turn, starting with number `k`. -/
def joinTurns (separators : List Char) : (k : Nat) → List (List Char) → List Char
  | _, [] => []
  | _, [w] => w
  | k, w :: ws =>
    w ++ (separators[k % separators.length]?).toList ++ joinTurns separators (k + 1) ws

/-- Puts lines of files beside each other, or all lines of a file into one. -/
def paste (c : Call) : Effect :=
  match c.options { flags := "s", valued := "d" } true with
  | .error why => c.misused why 1
  | .ok o =>
    let separators := match (o.value? 'd').map String.toList with
      | none => ['\t']
      | some ['\\', 'n'] => ['\n']
      | some ['\\', 't'] => ['\t']
      | some ['\\', '0'] => []
      | some cs => cs
    let (contents, errors) := c.contents o.operands
    let shares := (o.operands.filter (· = "-")).length
    let columns := (contents.foldl
      (fun (acc : Nat × List (List (List Char))) p =>
        let lines := (Lines.ofChars (if p.1 = "-" then c.input else p.2)).lines
        if p.1 = "-" ∧ 1 < shares then
          let own := (lines.zipIdx.filter fun l => l.2 % shares = acc.1).map Prod.fst
          (acc.1 + 1, own :: acc.2)
        else (acc.1, lines :: acc.2))
      (0, [])).2.reverse
    let rows := if o.has 's' then columns
      else (List.range ((columns.map List.length).foldl max 0)).map fun k =>
        columns.map fun col => (col[k]?).getD []
    { output := String.ofList (unlines (rows.map (joinTurns separators 0)))
      errors := errors, rest := c.after o.operands, status := if errors = "" then 0 else 1 }

end SessionWatch.Utility
