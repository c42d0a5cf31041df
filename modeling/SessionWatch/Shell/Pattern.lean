/-
# Patterns of a shell

A pattern matches a whole text: a star stands for any text, a question mark for
any character, and brackets for any of some characters. Quoted characters stand
for themselves. A value may also be cut where a pattern matches its beginning
or its end.

Key definitions: `Shell.Pattern`, `Shell.Pattern.ofChars`, `Shell.Pattern.accepts`,
`Shell.Pattern.cutFront`, `Shell.Pattern.cutBack`.
-/
import SessionWatch.Text.CharClass

namespace SessionWatch.Shell

inductive Atom where
  | char (c : Char)
  | anyChar
  | anyText
  /-- One of the characters, or none of them. -/
  | oneOf (negated : Bool) (set : List Text.CharSet)
  deriving DecidableEq

/-- Whether an atom stands for a character. -/
def Atom.admits (a : Atom) (c : Char) : Bool :=
  match a with
  | .char d => c = d
  | .anyChar | .anyText => true
  | .oneOf negated set => set.any (·.contains c) != negated

abbrev Pattern := List Atom

namespace Pattern

/-- What brackets stand for, from behind the opening one on, with the characters behind them; a
character comes with whether it is quoted. -/
def bracket? (cs : List (Char × Bool)) : Option (Atom × List (Char × Bool)) :=
  let (negated, cs) : Bool × List (Char × Bool) :=
    match cs with
    | ('!', false) :: cs | ('^', false) :: cs => (true, cs)
    | cs => (false, cs)
  (Text.CharSet.read? true (cs.length + 1) cs).map fun (set, rest) => (.oneOf negated set, rest)

/-- The pattern that is written with these characters, of which some are quoted. A bracket
that is not closed stands for itself. -/
def ofChars : (fuel : Nat) → List (Char × Bool) → Pattern
  | 0, _ | _, [] => []
  | fuel + 1, (c, quoted) :: cs =>
    if quoted then .char c :: ofChars fuel cs
    else match c, cs with
      | '*', cs => .anyText :: ofChars fuel cs
      | '?', cs => .anyChar :: ofChars fuel cs
      | '[', cs =>
        match bracket? cs with
        | some (a, rest) => a :: ofChars fuel rest
        | none => .char '[' :: ofChars fuel cs
      | '\\', (d, _) :: cs => .char d :: ofChars fuel cs
      | c, cs => .char c :: ofChars fuel cs

/-- How far a pattern may have come: a mark for each atom that may be next, and a last one for its
end. A star may be passed over, so that what is behind it may be next as well. -/
def entry : Pattern → (here : Bool) → List Bool
  | [], here => [here]
  | a :: p, here => here :: entry p (here && a = .anyText)

/-- How far a pattern may have come behind one more character. A star stays where it is. -/
def step (c : Char) : Pattern → List Bool → (here : Bool) → List Bool
  | a :: p, mark :: marks, here =>
    let taken := mark && a.admits c
    if a = .anyText then (here || taken) :: step c p marks (here || taken)
    else here :: step c p marks taken
  | _, _, here => [here]

/-- The marks of a pattern behind a text. -/
def marks (p : Pattern) (cs : List Char) : List Bool :=
  cs.foldl (fun marks c => step c p marks false) (p.entry true)

/-- Whether a pattern has come to its end. -/
def isDone (marks : List Bool) : Bool := marks.getLast? = some true

/-- A pattern accepts a text if it comes to its end with it. -/
def accepts (p : Pattern) (cs : List Char) : Bool := isDone (p.marks cs)

/-- The lengths of the beginnings of a text that a pattern accepts, the longest first. -/
def lengths (p : Pattern) (cs : List Char) : List Nat :=
  let start := p.entry true
  (cs.foldl
    (fun (acc : List Bool × Nat × List Nat) c =>
      let (marks, n, found) := acc
      let marks := step c p marks false
      (marks, n + 1, if isDone marks then (n + 1) :: found else found))
    (start, 0, if isDone start then [0] else [])).2.2

/-- A text without the shortest, or the longest, beginning that a pattern accepts. -/
def cutFront (p : Pattern) (longest : Bool) (cs : List Char) : List Char :=
  let lengths := p.lengths cs
  match if longest then lengths.head? else lengths.getLast? with
  | some n => cs.drop n
  | none => cs

/-- A text without the shortest, or the longest, end that a pattern accepts: read from its end, the
pattern backwards accepts the same. -/
def cutBack (p : Pattern) (longest : Bool) (cs : List Char) : List Char :=
  (cutFront p.reverse longest cs.reverse).reverse

end Pattern

end SessionWatch.Shell
