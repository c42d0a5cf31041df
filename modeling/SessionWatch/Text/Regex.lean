/-
# Regular expressions

Expressions are written in one of two ways: the basic one, where brackets,
bars and counts have a backslash in front, and the extended one, where they
have none. A match is the first one in a text and there the longest.

Key definitions: `Text.Regex`, `Text.Regex.parse?`, `Text.Regex.matches`,
`Text.Regex.find?`.
-/
import SessionWatch.Text.CharClass

namespace SessionWatch.Text

/-- A regular expression. -/
inductive Regex where
  | nothing
  | char (c : Char)
  | anyChar
  | oneOf (negated : Bool) (set : List CharSet)
  | lineStart
  | lineEnd
  /-- The edge of a word: where one begins, where one ends, either, or neither. -/
  | edge (start finish inner : Bool)
  /-- No character of a word stands before, or else behind. -/
  | apart (before : Bool)
  | sequence (a b : Regex)
  | either (a b : Regex)
  | repeated (a : Regex) (least : Nat) (most : Option Nat)
  | group (number : Nat) (a : Regex)
  | again (number : Nat)
  deriving DecidableEq

namespace Regex

/-! ## Reading -/

/-- What an expression is read from: the characters left and the number of groups so far. -/
structure Source where
  chars : List Char
  groups : Nat := 0

/-- A symbol of an expression. -/
inductive Symbol where
  | one (r : Regex)
  | star | plus | optional
  | count (least : Nat) (most : Option Nat)
  | bar | opening | closing

/-- The counts between braces, up to the closing one. -/
def readCount? (extended : Bool) (cs : List Char) : Option (Symbol × List Char) :=
  let value := fun ds : List Char => ds.foldl (fun n c => n * 10 + (c.toNat - '0'.toNat)) 0
  let low := cs.takeWhile Char.isDigit
  let rest := cs.drop low.length
  let (most, rest, fixed) : List Char × List Char × Bool := match rest with
    | ',' :: ds => (ds.takeWhile Char.isDigit, ds.dropWhile Char.isDigit, false)
    | rest => ([], rest, true)
  let closed := match extended, rest with
    | true, '}' :: rest => some rest
    | false, '\\' :: '}' :: rest => some rest
    | _, _ => none
  if low.isEmpty ∧ fixed then none
  else closed.map fun rest =>
    let n := value low
    (.count n (if fixed then some n else if most.isEmpty then none else some (value most)), rest)

/-- The characters of words. -/
def wordSet : List CharSet := [.named "alnum", .range '_' '_']

/-- What a letter behind a backslash stands for. -/
def readLetter? (c : Char) : Option Regex :=
  match c with
  | 'w' => some (.oneOf false wordSet)
  | 'W' => some (.oneOf true wordSet)
  | 's' => some (.oneOf false [.named "space"])
  | 'S' => some (.oneOf true [.named "space"])
  | '<' => some (.edge true false false)
  | '>' => some (.edge false true false)
  | 'b' => some (.edge true true false)
  | 'B' => some (.edge false false true)
  | '\x60' => some .lineStart
  | '\'' => some .lineEnd
  | 'n' => some (.char '\n')
  | 't' => some (.char '\t')
  | _ => none

/-- A set between brackets, from behind the opening one. -/
def readSet? (cs : List Char) : Option (Regex × List Char) :=
  let (negated, cs) : Bool × List Char := match cs with
    | '^' :: cs => (true, cs)
    | cs => (false, cs)
  (CharSet.read? true (cs.length + 1) (cs.map (·, false))).map fun (set, rest) =>
    (.oneOf negated set, rest.unzip.1)

/-- The symbol that begins here. `first` says that nothing to repeat stands in front of it. -/
def readSymbol? (extended first : Bool) : List Char → Option (Symbol × List Char)
  | [] => none
  | '\\' :: c :: cs =>
    if c.isDigit ∧ c ≠ '0' then some (.one (.again (c.toNat - '0'.toNat)), cs)
    else match readLetter? c with
      | some r => some (.one r, cs)
      | none =>
        if extended then some (.one (.char c), cs)
        else match c with
          | '(' => some (.opening, cs)
          | ')' => some (.closing, cs)
          | '|' => some (.bar, cs)
          | '{' => readCount? false cs
          | '+' => some (if first then .one (.char '+') else .plus, cs)
          | '?' => some (if first then .one (.char '?') else .optional, cs)
          | c => some (.one (.char c), cs)
  | c :: cs =>
    if c = '.' then some (.one .anyChar, cs)
    else if c = '[' then (readSet? cs).map fun (r, rest) => (.one r, rest)
    else if c = '*' then
      some (if first then (if extended then .one .nothing else .one (.char '*')) else .star, cs)
    else if extended then
      match c with
      | '(' => some (.opening, cs)
      | ')' => some (.closing, cs)
      | '|' => some (.bar, cs)
      | '+' => some (if first then .one .nothing else .plus, cs)
      | '?' => some (if first then .one .nothing else .optional, cs)
      | '{' => if first then some (.one (.char '{'), cs)
          else some ((readCount? true cs).getD (.one (.char '{'), cs))
      | '^' => some (.one .lineStart, cs)
      | '$' => some (.one .lineEnd, cs)
      | c => some (.one (.char c), cs)
    else if c = '^' ∧ first then some (.one .lineStart, cs)
    else if c = '$' ∧ (cs.isEmpty ∨ "\\)".toList.isPrefixOf cs ∨ "\\|".toList.isPrefixOf cs) then
      some (.one .lineEnd, cs)
    else some (.one (.char c), cs)

/-- Puts a symbol for repetition behind an expression. -/
def repeatedBy (a : Regex) : Symbol → Regex
  | .star => .repeated a 0 none
  | .plus => .repeated a 1 none
  | .optional => .repeated a 0 (some 1)
  | .count least most => .repeated a least most
  | _ => a

mutual

/-- Alternatives, up to a closing bracket or the end. -/
def readEither? (extended : Bool) : (fuel : Nat) → Source → Option (Regex × Source)
  | 0, _ => none
  | fuel + 1, s =>
    match readBranch? extended fuel true .nothing none s with
    | none => none
    | some (a, s) =>
      match readSymbol? extended true s.chars with
      | some (.bar, rest) =>
        (readEither? extended fuel { s with chars := rest }).map fun (b, s) => (.either a b, s)
      | _ => some (a, s)

/-- What is in one alternative: `done` stands in front of `last`, which may be repeated. -/
def readBranch? (extended : Bool) : (fuel : Nat) → (first : Bool) → (done : Regex) →
    (last : Option Regex) → Source → Option (Regex × Source)
  | 0, _, _, _, _ => none
  | fuel + 1, first, done, last, s =>
    let all := match last with
      | none => done
      | some r => if done = .nothing then r else .sequence done r
    if s.chars.isEmpty then some (all, s)
    else match readSymbol? extended first s.chars with
      | none => none
      | some (.bar, _) => some (all, s)
      | some (.closing, rest) =>
        if s.groups = 0 ∧ extended then
          readBranch? extended fuel false all (some (.char ')')) { s with chars := rest }
        else some (all, s)
      | some (.opening, rest) =>
        let number := s.groups + 1
        match readEither? extended fuel { chars := rest, groups := number } with
        | none => none
        | some (a, s) =>
          match readSymbol? extended true s.chars with
          | some (.closing, rest) =>
            readBranch? extended fuel false all (some (.group number a)) { s with chars := rest }
          | _ => none
      | some (.one r, rest) =>
        readBranch? extended fuel (r = .lineStart) all (some r) { s with chars := rest }
      | some (symbol, rest) =>
        match last with
        | none => none
        | some r =>
          readBranch? extended fuel false done (some (repeatedBy r symbol)) { s with chars := rest }

end

/-- The expression that a text writes. -/
def parse? (extended : Bool) (cs : List Char) : Option Regex :=
  match readEither? extended (4 * cs.length + 4) { chars := cs } with
  | some (r, s) => if s.chars.isEmpty then some r else none
  | none => none

/-! ## Matching -/

/-- How a text is read by an expression. -/
structure Mood where
  /-- Large and small letters are the same. -/
  folded : Bool := false
  /-- How long the text is, which bounds every repetition. -/
  size : Nat

/-- Where a match has come to. -/
structure Point where
  rest : List Char
  /-- The character before. -/
  before : Option Char
  /-- How many characters were taken. -/
  taken : Nat := 0
  groups : List (Nat × List Char) := []

def isWordChar (c : Char) : Bool := c.isAlphanum || c = '_'

def Point.step (p : Point) (ok : Char → Bool) : Option Point :=
  match p.rest with
  | c :: cs => if ok c then some { p with rest := cs, before := some c, taken := p.taken + 1 }
      else none
  | [] => none

def sameChar (m : Mood) (a b : Char) : Bool :=
  a = b || (m.folded && a.toLower = b.toLower)

/-- Takes a text that is expected. -/
def Point.takeText (m : Mood) : List Char → Point → Option Point
  | [], p => some p
  | c :: cs, p => (p.step (sameChar m c)).bind (takeText m cs)

/-- Hands points to `next` one after the other, until that ends the search. -/
def tryEach {β : Type} (next : Point → β → β × Bool) : List Point → β → β × Bool
  | [], b => (b, false)
  | p :: ps, b =>
    match next p b with
    | (b, true) => (b, true)
    | (b, false) => tryEach next ps b

/-- The points that single steps lead to, the furthest first, put before those of `acc`. -/
def run (single : Point → Option Point) (least : Nat) (most : Option Nat) :
    (fuel done : Nat) → (acc : List Point) → Point → List Point
  | 0, _, acc, _ => acc
  | fuel + 1, done, acc, p =>
    let acc := if least ≤ done then p :: acc else acc
    if most.all (done < ·) then
      match single p with
      | some q => run single least most fuel (done + 1) acc q
      | none => acc
    else acc

/-- Whether an expression stands for exactly one character. -/
def isSingle : Regex → Bool
  | .char _ | .anyChar | .oneOf _ _ => true
  | _ => false

/-- Follows an expression from a point in every way, the longest repetitions first, and hands
each point that it leads to, with what was found so far, to `next`; a second part that is true
ends the search. -/
def explore {β : Type} (m : Mood) : Regex → (next : Point → β → β × Bool) → Point → β → β × Bool
  | .nothing, next, p, b => next p b
  | .char c, next, p, b =>
    match p.step (sameChar m c) with
    | some p => next p b
    | none => (b, false)
  | .anyChar, next, p, b =>
    match p.step fun _ => true with
    | some p => next p b
    | none => (b, false)
  | .oneOf negated set, next, p, b =>
    let holds := fun c => set.any fun s => s.contains c
    let test := fun c => (holds c || (m.folded && (holds c.toLower || holds c.toUpper))) != negated
    match p.step test with
    | some p => next p b
    | none => (b, false)
  | .lineStart, next, p, b => if p.before.isNone then next p b else (b, false)
  | .lineEnd, next, p, b => if p.rest.isEmpty then next p b else (b, false)
  | .edge start finish inner, next, p, b =>
    let before := p.before.any isWordChar
    let after := p.rest.head?.any isWordChar
    if (start && !before && after) || (finish && before && !after) || (inner && before = after)
    then next p b else (b, false)
  | .apart before, next, p, b =>
    if (if before then p.before else p.rest.head?).any isWordChar then (b, false) else next p b
  | .sequence a c, next, p, b => explore m a (fun p b => explore m c next p b) p b
  | .either a c, next, p, b =>
    match explore m a next p b with
    | (b, true) => (b, true)
    | (b, false) => explore m c next p b
  | .repeated a least most, next, p, b =>
    if a.isSingle then
      let single := fun (q : Point) => (explore m a (fun q _ => (some q, true)) q none).1
      tryEach next (run single least most (m.size + 1) 0 [] p) b
    else
    let rec go : (fuel done : Nat) → Point → β → β × Bool := fun fuel => match fuel with
      | 0 => fun _ _ b => (b, false)
      | fuel + 1 => fun done p b =>
        let further := if most.all (done < ·) then
            explore m a (fun q b =>
              if q.taken = p.taken ∧ least ≤ done then (b, false) else go fuel (done + 1) q b) p b
          else (b, false)
        match further with
        | (b, true) => (b, true)
        | (b, false) => if least ≤ done then next p b else (b, false)
    go (m.size + least + 2) 0 p b
  | .group n a, next, p, b =>
    explore m a (fun q b =>
      next { q with groups := (n, p.rest.take (q.taken - p.taken)) :: q.groups } b) p b
  | .again n, next, p, b =>
    match p.takeText m ((p.groups.lookup n).getD []) with
    | some p => next p b
    | none => (b, false)

/-- Whether an expression has alternatives, so that its longest match need not be its first. -/
def hasAlternatives : Regex → Bool
  | .either _ _ => true
  | .sequence a b => a.hasAlternatives || b.hasAlternatives
  | .repeated a _ _ | .group _ a => a.hasAlternatives
  | _ => false

/-- The longest match that begins at a point. -/
def matchAt? (m : Mood) (r : Regex) (p : Point) : Option Point :=
  let thorough := r.hasAlternatives
  (r.explore m (fun q best =>
    (match best with
      | some b => if b.taken < q.taken then some q else best
      | none => some q, !thorough)) p none).1

/-- A match: how many characters stand before it, where it ends, and what it holds. -/
structure Match where
  skipped : Nat
  text : List Char
  rest : List Char
  groups : List (Nat × List Char)

/-- The first match from a point on, after `skipped` characters. -/
def findFrom? (m : Mood) (r : Regex) : (skipped : Nat) → (before : Option Char) → List Char →
    Option Match
  | skipped, before, [] =>
    (r.matchAt? m { rest := [], before := before }).map fun q => ⟨skipped, [], [], q.groups⟩
  | skipped, before, c :: cs =>
    match r.matchAt? m { rest := c :: cs, before := before } with
    | some q => some ⟨skipped, (c :: cs).take q.taken, q.rest, q.groups⟩
    | none => findFrom? m r (skipped + 1) (some c) cs

/-- The first match in a text, in which large and small letters may be the same. -/
def find? (folded : Bool) (r : Regex) (cs : List Char) : Option Match :=
  r.findFrom? { folded := folded, size := cs.length } 0 none cs

/-- The matches from a point on, one behind the other, each with the text before it; an empty
match right behind another one does not count. -/
def findAllFrom (m : Mood) (r : Regex) : (fuel : Nat) → (before : Option Char) → (tied : Bool) →
    List Char → List (List Char × Match)
  | 0, _, _, _ => []
  | fuel + 1, before, tied, cs =>
    match r.findFrom? m 0 before cs with
    | none => []
    | some found =>
      let front := cs.take found.skipped
      if found.text.isEmpty then
        match found.rest with
        | [] => if tied ∧ found.skipped = 0 then [] else [(front, found)]
        | c :: rest =>
          let more := findAllFrom m r fuel (some c) false rest
          let more := match more with
            | (next, g) :: more => (c :: next, g) :: more
            | [] => []
          if tied ∧ found.skipped = 0 then
            match more with
            | (next, g) :: more => (front ++ next, g) :: more
            | [] => []
          else (front, found) :: more
      else (front, found) :: findAllFrom m r fuel (found.text.getLast?.or before) true found.rest

/-- The matches in a text, each with the text before it. -/
def findAll (folded : Bool) (r : Regex) (cs : List Char) : List (List Char × Match) :=
  let size := cs.length
  r.findAllFrom { folded := folded, size := size } (size + 2) none false cs

/-- Whether an expression matches somewhere in a text, or all of it. -/
def isFoundIn (folded : Bool) (r : Regex) (whole : Bool) (cs : List Char) : Bool :=
  if whole then
    (r.explore { folded := folded, size := cs.length } (fun q _ => (q.rest.isEmpty, q.rest.isEmpty)) { rest := cs, before := none }
      false).1
  else (r.find? folded cs).isSome

end Regex

end SessionWatch.Text
