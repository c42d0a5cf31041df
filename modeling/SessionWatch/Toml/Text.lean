/-
# Texts and keys of TOML

A text stands between quotes, with escapes, or between apostrophes, as it is;
with three of either it may have several lines. Each reader takes the
characters behind the opening and gives what is left.

Key definitions: `Toml.readBasic?`, `Toml.readBasicLines?`,
`Toml.readLiteral?`, `Toml.readLiteralLines?`, `Toml.readText?`,
`Toml.readKey?`.
-/

namespace SessionWatch.Toml

/-- What a reader gives: a value and the characters left. -/
abbrev Read (α : Type) := Option (α × List Char)

/-- A character that may stand for itself in a comment: all but controls, the tab aside. -/
def isPlain (c : Char) : Bool := c = '\t' || (0x20 ≤ c.toNat && c.toNat ≠ 0x7F)

def isSpace (c : Char) : Bool := c = ' ' || c = '\t'

def skipSpace (cs : List Char) : List Char := cs.dropWhile isSpace

/-- What is left after a line feed, which a carriage return may precede. -/
def afterNewline? : List Char → Option (List Char)
  | '\n' :: cs => some cs
  | '\r' :: '\n' :: cs => some cs
  | _ => none

def hexValue? (c : Char) : Option Nat :=
  if '0' ≤ c ∧ c ≤ '9' then some (c.toNat - '0'.toNat)
  else if 'a' ≤ c ∧ c ≤ 'f' then some (c.toNat - 'a'.toNat + 10)
  else if 'A' ≤ c ∧ c ≤ 'F' then some (c.toNat - 'A'.toNat + 10)
  else none

/-- The character with the code point that `n` hexadecimal digits give. -/
def readCodePoint? (n : Nat) (cs : List Char) : Read Char :=
  match (cs.take n).mapM hexValue? with
  | none => none
  | some ds =>
    let code := ds.foldl (fun a d => a * 16 + d) 0
    if ds.length = n ∧ code.isValidChar then some (Char.ofNat code, cs.drop n) else none

/-- The character of an escape, from behind the backslash. -/
def readEscape? : List Char → Read Char
  | 'b' :: cs => some ('\x08', cs)
  | 't' :: cs => some ('\t', cs)
  | 'n' :: cs => some ('\n', cs)
  | 'f' :: cs => some ('\x0c', cs)
  | 'r' :: cs => some ('\r', cs)
  | '"' :: cs => some ('"', cs)
  | '\\' :: cs => some ('\\', cs)
  | 'u' :: cs => readCodePoint? 4 cs
  | 'U' :: cs => readCodePoint? 8 cs
  | _ => none

/-- The rest of a text between quotes; `fuel` is at least the number of characters. -/
def readBasic? : (fuel : Nat) → (acc : List Char) → List Char → Read String
  | 0, _, _ | _, _, [] => none
  | fuel + 1, acc, c :: cs =>
    if c = '"' then some (String.ofList acc.reverse, cs)
    else if c = '\\' then
      match readEscape? cs with
      | none => none
      | some (d, cs) => readBasic? fuel (d :: acc) cs
    else if isPlain c then readBasic? fuel (c :: acc) cs
    else none

/-- The rest of a text between apostrophes. -/
def readLiteral? : (acc : List Char) → List Char → Read String
  | _, [] => none
  | acc, c :: cs =>
    if c = '\'' then some (String.ofList acc.reverse, cs)
    else if isPlain c then readLiteral? (c :: acc) cs
    else none

/-- Three marks or more end a text of several lines; up to two of them belong to the text. -/
def closing? (mark : Char) (acc cs : List Char) : Option (List Char × List Char) :=
  let marks := (cs.takeWhile (· = mark)).length
  if marks < 3 then none
  else
    let own := min (marks - 3) 2
    some (List.replicate own mark ++ acc, cs.drop (own + 3))

/-- Skips space and ends of lines after a backslash that ends a line. -/
def skipBlankLines : List Char → List Char
  | '\r' :: '\n' :: cs => skipBlankLines cs
  | c :: cs => if isSpace c ∨ c = '\n' then skipBlankLines cs else c :: cs
  | [] => []

/-- The rest of a text between triple quotes; `fuel` is at least the number of characters. -/
def readBasicLines? : (fuel : Nat) → (acc : List Char) → List Char → Read String
  | 0, _, _ | _, _, [] => none
  | fuel + 1, acc, c :: cs =>
    match closing? '"' acc (c :: cs), afterNewline? (c :: cs) with
    | some (acc, rest), _ => some (String.ofList acc.reverse, rest)
    | none, some rest => readBasicLines? fuel ('\n' :: acc) rest
    | none, none =>
      if c = '\\' then
        match readEscape? cs, afterNewline? (skipSpace cs) with
        | some (d, rest), _ => readBasicLines? fuel (d :: acc) rest
        | none, some rest => readBasicLines? fuel acc (skipBlankLines rest)
        | none, none => none
      else if isPlain c then readBasicLines? fuel (c :: acc) cs
      else none

/-- The rest of a text between triple apostrophes; `fuel` is at least the number of characters. -/
def readLiteralLines? : (fuel : Nat) → (acc : List Char) → List Char → Read String
  | 0, _, _ | _, _, [] => none
  | fuel + 1, acc, c :: cs =>
    match closing? '\'' acc (c :: cs), afterNewline? (c :: cs) with
    | some (acc, rest), _ => some (String.ofList acc.reverse, rest)
    | none, some rest => readLiteralLines? fuel ('\n' :: acc) rest
    | none, none => if isPlain c then readLiteralLines? fuel (c :: acc) cs else none

/-- A text of one line, or nothing if none starts here. -/
def readLineText? (cs : List Char) : Read String :=
  match cs with
  | '"' :: rest => readBasic? (rest.length + 1) [] rest
  | '\'' :: rest => readLiteral? [] rest
  | _ => none

/-- A text; a line feed right behind a triple opening does not belong to it. -/
def readText? (cs : List Char) : Read String :=
  match cs with
  | '"' :: '"' :: '"' :: rest =>
    readBasicLines? (rest.length + 1) [] ((afterNewline? rest).getD rest)
  | '\'' :: '\'' :: '\'' :: rest =>
    readLiteralLines? (rest.length + 1) [] ((afterNewline? rest).getD rest)
  | cs => readLineText? cs

/-! ## Keys -/

def isBareKey (c : Char) : Bool := c.isAlphanum || c = '-' || c = '_'

/-- One part of a dotted key. -/
def readKeyPart? (cs : List Char) : Read String :=
  match cs with
  | '"' :: _ | '\'' :: _ => readLineText? cs
  | _ =>
    let part := cs.takeWhile isBareKey
    if part.isEmpty then none else some (String.ofList part, cs.dropWhile isBareKey)

/-- As many parts as a key may have, and as many brackets as may stand inside one another. -/
def depthLimit : Nat := 79

/-- A dotted key of at most `limit` parts, with the space around it. -/
def readKey? : (limit : Nat) → List Char → Read (List String)
  | 0, _ => none
  | limit + 1, cs =>
    match readKeyPart? (skipSpace cs) with
    | none => none
    | some (part, rest) =>
      match skipSpace rest with
      | '.' :: rest => (readKey? limit rest).map fun (parts, rest) => (part :: parts, rest)
      | rest => some ([part], rest)

end SessionWatch.Toml
