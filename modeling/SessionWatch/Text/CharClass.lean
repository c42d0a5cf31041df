/-
# Sets of characters between brackets

A set lists characters, ranges and classes of ASCII characters such as
`[:digit:]`. A closing bracket counts as a character where it comes first.

Key definitions: `Text.CharSet`, `Text.CharSet.contains`, `Text.CharSet.read?`.
-/

namespace SessionWatch.Text

/-- A part of a set of characters. -/
inductive CharSet where
  | range (first last : Char)
  /-- A class that has a name. -/
  | named (name : String)
  deriving DecidableEq

namespace CharSet

/-- A printing character other than a blank. -/
def isGraphic (c : Char) : Bool := 0x21 ≤ c.toNat && c.toNat ≤ 0x7E

/-- Whether a character is in the class of this name; a class that is not known is empty. -/
def isIn (name : String) (c : Char) : Bool :=
  match name with
  | "alpha" => c.isAlpha
  | "digit" => c.isDigit
  | "alnum" => c.isAlphanum
  | "upper" => c.isUpper
  | "lower" => c.isLower
  | "space" => c = ' ' || (0x09 ≤ c.toNat && c.toNat ≤ 0x0D)
  | "blank" => c = ' ' || c = '\t'
  | "punct" => isGraphic c && !c.isAlphanum
  | "print" => c = ' ' || isGraphic c
  | "graph" => isGraphic c
  | "cntrl" => c.toNat < 0x20 || c.toNat = 0x7F
  | "xdigit" => c.isDigit || ('a' ≤ c && c ≤ 'f') || ('A' ≤ c && c ≤ 'F')
  | _ => false

/-- The names of the classes. -/
def names : List String :=
  ["alpha", "digit", "alnum", "upper", "lower", "space", "blank", "punct", "print", "graph",
   "cntrl", "xdigit"]

def contains (s : CharSet) (c : Char) : Bool :=
  match s with
  | .range first last => first ≤ c && c ≤ last
  | .named name => isIn name c

/-- The name of a class that begins here, behind `[:`, and what is left behind `:]`. -/
def className? (cs : List (Char × Bool)) : Option (String × List (Char × Bool)) :=
  let letters := cs.takeWhile fun p => p.1.isAlpha && !p.2
  match cs.drop letters.length with
  | (':', false) :: (']', false) :: rest => some (String.ofList letters.unzip.1, rest)
  | _ => none

/-- Reads a set up to its closing bracket; each character comes with whether it is quoted. The
first character of a set may be a closing bracket. -/
def read? : (first : Bool) → (fuel : Nat) → List (Char × Bool) →
    Option (List CharSet × List (Char × Bool))
  | _, 0, _ | _, _, [] => none
  | first, fuel + 1, (c, quoted) :: cs =>
    let single : Unit → Option (List CharSet × List (Char × Bool)) := fun () =>
      match cs with
      | ('-', false) :: (d, q) :: rest =>
        if d = ']' ∧ ¬ q then
          (read? false fuel cs).map fun (set, rest) => (.range c c :: set, rest)
        else (read? false fuel rest).map fun (set, rest) => (.range c d :: set, rest)
      | cs => (read? false fuel cs).map fun (set, rest) => (.range c c :: set, rest)
    if c = ']' ∧ ¬ quoted ∧ ¬ first then some ([], cs)
    else if c = '[' ∧ ¬ quoted then
      match cs with
      | (':', false) :: more =>
        match className? more with
        | some (name, rest) =>
          (read? false fuel rest).map fun (set, rest) => (.named name :: set, rest)
        | none => single ()
      | _ => single ()
    else single ()

end CharSet

end SessionWatch.Text
