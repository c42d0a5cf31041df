/-
# Fields

A word that has been filled in is cut into fields: what comes from a value and
stands outside of quotes is cut at separators. Separators that are blanks count
once however many they are; any other one ends a field.

A field that has a pattern in it stands for the paths that match it, if there
are any.

Key definitions: `Shell.Cell`, `Shell.Field`, `Shell.fields`, `Shell.Field.paths`.
-/
import SessionWatch.Files.Tree
import SessionWatch.Shell.Pattern

namespace SessionWatch.Shell

/-- A part of a word that has been filled in. -/
inductive Cell where
  /-- A character, whether it is quoted, and whether it may separate fields. -/
  | char (c : Char) (quoted splits : Bool)
  /-- Quotes: a field is here even if it is empty. -/
  | quotes
  /-- A field ends here. -/
  | boundary
  deriving DecidableEq

namespace Cell

/-- The cells of a value. -/
def ofValue (quoted : Bool) (s : String) : List Cell :=
  (if quoted then [.quotes] else []) ++ s.toList.map fun c => .char c quoted (!quoted)

/-- The text of cells that are not cut. -/
def text (cells : List Cell) : String :=
  String.ofList (cells.filterMap fun
    | .char c _ _ => some c
    | .boundary => some ' '
    | .quotes => none)

/-- The characters of cells, each with whether it is quoted. -/
def marked (cells : List Cell) : List (Char × Bool) :=
  cells.filterMap fun
    | .char c quoted _ => some (c, quoted)
    | .boundary => some (' ', false)
    | .quotes => none

/-- Cells that stand in for a value: inside of quotes all of them are quoted, outside those that
are not quoted may separate fields. -/
def standIn (quoted : Bool) (cells : List Cell) : List Cell :=
  if quoted then .quotes :: cells.map fun
    | .char c _ _ => .char c true false
    | cell => cell
  else cells.map fun
    | .char c false _ => .char c false true
    | cell => cell

end Cell

/-- Characters, each with whether it is quoted. -/
abbrev Field := List (Char × Bool)

/-- Where the cutting of a word stands. -/
structure Cut where
  /-- The field that has begun, the latest character first. -/
  field : Option Field := none
  /-- The fields before it, latest first. -/
  done : List Field := []
  /-- A field has just been ended by blanks. -/
  blank : Bool := false

namespace Cut

def finish (c : Cut) : Cut :=
  match c.field with
  | none => c
  | some cs => { c with field := none, done := cs.reverse :: c.done }

def step (separators : List Char) (cut : Cut) (cell : Cell) : Cut :=
  match cell with
  | .quotes => { cut with field := some (cut.field.getD []), blank := false }
  | .boundary => { cut.finish with blank := false }
  | .char c quoted splits =>
    if splits ∧ separators.contains c then
      if c = ' ' ∨ c = '\t' ∨ c = '\n' then
        if cut.field.isSome then { cut.finish with blank := true } else cut
      else if cut.field.isSome then { cut.finish with blank := false }
      else if cut.blank then { cut with blank := false }
      else { cut with done := [] :: cut.done }
    else { cut with field := some ((c, quoted) :: cut.field.getD []), blank := false }

end Cut

/-- The fields of a word. -/
def fields (separators : String) (cells : List Cell) : List Field :=
  (cells.foldl (Cut.step separators.toList) {}).finish.done.reverse

namespace Field

def text (f : Field) : String := String.ofList (f.map Prod.fst)

def isPattern (f : Field) : Bool :=
  f.any fun (c, quoted) => !quoted && (c = '*' || c = '?' || c = '[')

/-- The parts of a field between slashes. -/
def parts (f : Field) : List Field :=
  f.foldr
    (fun p acc =>
      match acc with
      | [] => [[p]]
      | part :: parts => if p.1 = '/' then [] :: part :: parts else (p :: part) :: parts)
    [[]]

/-- The names in the directory of a path that a part of a field matches. A dot in front of a name
is only matched by a dot. -/
def namesIn (fs : Files) (before : String) (part : Field) : List String :=
  match fs.lookup (if before = "" then "." else before) with
  | .ok (p, .dir) =>
    let pattern := Pattern.ofChars (part.length + 1) part
    let hidden := part.head?.any fun p => p.1 = '.'
    (fs.children p).filter fun n => pattern.accepts n.toList && (hidden || !n.startsWith ".")
  | _ => []

/-- The paths that match the parts of a field, behind what was found before. -/
def matching (fs : Files) : (before : List String) → List Field → List String
  | before, [] => before
  | before, part :: parts =>
    let found := if part.isPattern then
        before.flatMap fun b => (namesIn fs b part).map (b ++ ·)
      else before.map (· ++ part.text)
    matching fs (if parts.isEmpty then found else found.map (· ++ "/")) parts

/-- What a field stands for: itself, or the paths that match it. -/
def paths (fs : Files) (f : Field) : List String :=
  if ¬ f.isPattern then [f.text]
  else
    let found := (matching fs [""] f.parts).filter fun path => (fs.lookup path) matches .ok _
    if found.isEmpty then [f.text] else found.mergeSort

end Field

end SessionWatch.Shell
