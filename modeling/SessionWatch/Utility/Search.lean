/-
# Searching lines

A search prints the lines that an expression is found in, or says how many there
are, or only whether there are any.

Key definitions: `Utility.Finder`, `Utility.grep`.
-/
import SessionWatch.Text.Regex
import SessionWatch.Utility.Basic

namespace SessionWatch.Utility

/-- What lines are searched for. -/
inductive Finder where
  | texts (folded : Bool) (texts : List (List Char))
  | expressions (folded : Bool) (rs : List Text.Regex)

namespace Finder

def lower (folded : Bool) (cs : List Char) : List Char := if folded then cs.map Char.toLower else cs

/-- The places, each with what stands before and behind it, at which a text stands in another. -/
def occurrences (text : List Char) : (before : List Char) → List Char →
    List (List Char × List Char)
  | before, [] => if text.isEmpty then [(before, [])] else []
  | before, c :: cs =>
    let more := occurrences text (c :: before) cs
    if text.isPrefixOf (c :: cs) then (before, (c :: cs).drop text.length) :: more else more

/-- No character of a word stands at the edges of a place. -/
def isFree (before behind : List Char) : Bool :=
  !(before.head?.any Text.Regex.isWordChar) && !(behind.head?.any Text.Regex.isWordChar)

/-- The first character of a text that has one of some texts in it stands in it. -/
def contains (text : List Char) : List Char → Bool
  | [] => text.isEmpty
  | c :: cs => text.isPrefixOf (c :: cs) || contains text cs

/-- An expression for words only. -/
def asWord (r : Text.Regex) : Text.Regex := .sequence (.apart true) (.sequence r (.apart false))

/-- Whether something is found in a line. -/
def isIn (f : Finder) (word whole : Bool) (line : List Char) : Bool :=
  match f with
  | texts folded ts =>
    let line := lower folded line
    ts.any fun t =>
      let t := lower folded t
      if whole then t = line
      else if word then (occurrences t [] line).any fun p => isFree p.1 p.2
      else contains t line
  | expressions folded rs =>
    rs.any fun r => (if word ∧ ¬ whole then asWord r else r).isFoundIn folded whole line

/-- The parts of a line that are found, one behind the other. -/
def parts (f : Finder) (word : Bool) (line : List Char) : List (List Char) :=
  let r : Text.Regex := match f with
    | texts _ ts => (ts.map fun t =>
        t.foldr (fun c r => Text.Regex.sequence (.char c) r) .nothing).foldr
        (fun a b => if b = .nothing then a else .either a b) .nothing
    | expressions _ rs => rs.foldr (fun a b => if b = .nothing then a else .either a b) .nothing
  let r := if word then asWord r else r
  let folded := match f with
    | texts folded _ | expressions folded _ => folded
  ((r.findAll folded line).map fun p => p.2.text).filter fun t => !t.isEmpty

end Finder

/-- What can be asked of a search. -/
def grepOptions : Known where
  flags := "EFGPVaHhclLnoqsvwxizUbr"
  valued := "emABC"
  long := [("quiet", 'q'), ("silent", 'q'), ("count", 'c'), ("ignore-case", 'i'),
    ("invert-match", 'v'), ("word-regexp", 'w'), ("line-regexp", 'x'), ("only-matching", 'o'),
    ("line-number", 'n'), ("fixed-strings", 'F'), ("extended-regexp", 'E'), ("regexp", 'e'),
    ("max-count", 'm'), ("no-messages", 's'), ("files-with-matches", 'l'),
    ("files-without-match", 'L'), ("text", 'a'), ("no-filename", 'h'), ("with-filename", 'H'),
    ("after-context", 'A'), ("before-context", 'B'), ("context", 'C')]

/-- Lines with their numbers, those between chosen ones marked as context. -/
def withContext (before after : Nat) (chosen : List (Nat × List Char × Bool)) :
    List (Nat × List Char × Bool) :=
  if before = 0 ∧ after = 0 then chosen.filter (·.2.2)
  else
    let hits := chosen.filterMap fun p => if p.2.2 then some p.1 else none
    chosen.filter fun p => hits.any fun h => h ≤ p.1 + before && p.1 ≤ h + after

/-- Groups of lines that follow each other are set apart by a line. -/
def separateGroups : (last : Nat) → List (Nat × List Char) → List (List Char)
  | _, [] => []
  | last, (n, line) :: rest =>
    let more := line :: separateGroups n rest
    if last ≠ 0 ∧ last + 1 < n then "--".toList :: more else more

/-- How many hits are looked for. -/
def limitOf (o : Options) : Nat :=
  if o.has 'q' ∨ o.has 'l' then 1 else ((o.value? 'm').bind number?).getD 1000000000

/-- What is left of an input behind the lines that are looked at until enough were hits; none if
there are not that many. -/
def behindHits (isHit : List Char → Bool) : (limit : Nat) → List (List Char) →
    Option (List (List Char))
  | 0, lines => some lines
  | _ + 1, [] => none
  | limit + 1, line :: lines => behindHits isHit (if isHit line then limit else limit + 1) lines

/-- The lines found in a file of this name, and how many were hits; `named` if the name is told. -/
def report (o : Options) (finder : Finder) (named : Bool) (name : String) (cs : List Char) :
    Nat × List (List Char) :=
  let limit := limitOf o
  let before := (((o.value? 'B').or (o.value? 'C')).bind number?).getD 0
  let after := (((o.value? 'A').or (o.value? 'C')).bind number?).getD 0
  let shown := if name = "-" then "(standard input)" else name
  let marked : Nat × List (Nat × List Char × Bool) :=
    ((Lines.ofChars cs).lines.zipIdx 1).foldl
      (fun acc (p : List Char × Nat) =>
        let hit := acc.1 < limit && finder.isIn (o.has 'w') (o.has 'x') p.1 != o.has 'v'
        (if hit then acc.1 + 1 else acc.1, (p.2, p.1, hit) :: acc.2))
      (0, [])
  let hits := marked.1
  let rows := withContext before after marked.2.reverse
  let label := fun (n : Nat) (hit : Bool) =>
    let mark := if hit then ":" else "-"
    (if named then shown ++ mark else "") ++ (if o.has 'n' then toString n ++ mark else "")
  let found : List (List Char) :=
    if o.has 'q' then []
    else if o.has 'l' then if hits = 0 then [] else [shown.toList]
    else if o.has 'L' then if hits = 0 then [shown.toList] else []
    else if o.has 'c' then [((if named then shown ++ ":" else "") ++ toString hits).toList]
    else if o.has 'o' then
      if o.has 'v' then []
      else (rows.filter (·.2.2)).flatMap fun p =>
        (finder.parts (o.has 'w') p.2.1).map fun t => (label p.1 true).toList ++ t
    else
      let lines := rows.map fun p => (p.1, (label p.1 p.2.2).toList ++ p.2.1)
      if o.has 'A' || o.has 'B' || o.has 'C' then separateGroups 0 lines
      else lines.map Prod.snd
  (hits, found)

/-- Searches the lines of the input or of files. -/
def grep (c : Call) : Effect :=
  match c.options grepOptions true with
  | .error why => c.misused why 2
  | .ok o =>
    let given := (o.given.filter (·.1 = 'e')).map Prod.snd
    let (patterns, operands) := if given.isEmpty then (o.operands.take 1, o.operands.drop 1)
      else (given, o.operands)
    let texts := patterns.flatMap fun p => split '\n' p.toList
    let extended := o.has 'E' || o.has 'P' || c.name = "egrep"
    let finder? : Option Finder :=
      if o.has 'F' ∨ c.name = "fgrep" then some (.texts (o.has 'i') texts)
      else (texts.mapM (Text.Regex.parse? extended)).map (.expressions (o.has 'i'))
    match finder?, patterns with
    | _, [] =>
      { c.fails "" 2 with errors := "Usage: grep [OPTION]... PATTERNS [FILE]...\n" }
    | none, _ => c.fails "Invalid regular expression" 2
    | some finder, _ =>
      let (contents, errors) := c.contents operands
      let named := o.has 'H' || (1 < operands.length && !o.has 'h')
      let results := contents.map fun p => report o finder named p.1 p.2
      let any := results.any fun r => 0 < r.1
      let isHit := fun line => finder.isIn (o.has 'w') (o.has 'x') line != o.has 'v'
      let l := Lines.ofChars c.input
      let left := if operands.isEmpty then
          (behindHits isHit (limitOf o) l.lines).map fun lines =>
            ({ l with lines := lines } : Lines).toChars
        else c.after operands
      { output := String.ofList (unlines (results.flatMap (·.2)))
        errors := if o.has 's' then "" else errors
        rest := left, block := 98304
        status := if any ∧ (o.has 'q' ∨ errors = "") then 0
          else if errors ≠ "" then 2 else if any then 0 else 1 }

end SessionWatch.Utility
