/-
# Reading TOML documents

A document is a sequence of lines: a header opens a table, an entry puts a
value into the table that is open. Lists may run over several lines, tables
between braces may not.

Key definitions: `Toml.readValue?`, `Toml.readDocument?`, `Toml.parse?`.
-/
import SessionWatch.Toml.Scalar
import SessionWatch.Toml.Table

namespace SessionWatch.Toml

/-- What is left after a comment, if there is one. -/
def skipComment : List Char → List Char
  | '#' :: cs => cs.dropWhile isPlain
  | cs => cs

/-- What is left after the end of a line: space, perhaps a comment, and a line feed or the end. -/
def afterLine? (cs : List Char) : Option (List Char) :=
  match skipComment (skipSpace cs) with
  | [] => some []
  | cs => afterNewline? cs

/-- Skips space, line feeds and comments; `fuel` is at least the number of characters. -/
def skipLines : (fuel : Nat) → List Char → List Char
  | 0, cs => cs
  | fuel + 1, cs =>
    match skipComment (skipSpace cs) with
    | [] => []
    | cs =>
      match afterNewline? cs with
      | some rest => skipLines fuel rest
      | none => cs

/-- The items of a list, from behind its bracket or a comma. -/
def readItems? (item : List Char → Read Json) : (fuel : Nat) → (acc : List Json) → List Char →
    Read Json
  | 0, _, _ => none
  | fuel + 1, acc, cs =>
    match skipLines cs.length cs with
    | ']' :: rest => some (.array acc.reverse, rest)
    | cs =>
      match item cs with
      | none => none
      | some (v, rest) =>
        match skipLines rest.length rest with
        | ',' :: rest => readItems? item fuel (v :: acc) rest
        | ']' :: rest => some (.array (v :: acc).reverse, rest)
        | _ => none

/-- An entry: a key, an equals sign and a value. -/
def readAssignment? (item : List Char → Read Json) (cs : List Char) :
    Read (List String × String × Json) :=
  match readKey? depthLimit cs with
  | some (key, '=' :: rest) =>
    match item (skipSpace rest), key.getLast? with
    | some (v, rest), some k => some ((key.dropLast, k, v), rest)
    | _, _ => none
  | _ => none

/-- The entries of a table between braces, from behind the brace or a comma. -/
def readPairs? (item : List Char → Read Json) : (fuel : Nat) → Entries → List Char → Read Json
  | 0, _, _ => none
  | fuel + 1, es, cs =>
    match readAssignment? item cs with
    | none => none
    | some ((path, k, v), rest) =>
      match insertHere? path k v .opened es, skipSpace rest with
      | some es, ',' :: rest => readPairs? item fuel es rest
      | some es, '\x7d' :: rest => some (.object (membersOf es), rest)
      | _, _ => none

/-- A value in which at most `depth` brackets stand inside one another. -/
def readValue? : (depth : Nat) → List Char → Read Json
  | depth, cs =>
    match cs, depth with
    | '"' :: _, _ | '\'' :: _, _ => (readText? cs).map fun (s, rest) => (.string s, rest)
    | '[' :: _, 0 | '\x7b' :: _, 0 => none
    | '[' :: rest, depth + 1 => readItems? (readValue? depth) (rest.length + 1) [] rest
    | '\x7b' :: rest, depth + 1 =>
      match skipSpace rest with
      | '\x7d' :: rest => some (.object [], rest)
      | rest => readPairs? (readValue? depth) (rest.length + 1) [] rest
    | 't' :: 'r' :: 'u' :: 'e' :: rest, _ => some (.bool true, rest)
    | 'f' :: 'a' :: 'l' :: 's' :: 'e' :: rest, _ => some (.bool false, rest)
    | cs, _ =>
      if startsDate cs || startsTime cs then readMoment? cs
      else match readDouble? cs with
        | some r => some r
        | none => readInteger? cs

/-- The key of a header, and what is left after its line. -/
def readHeader? (cs : List Char) : Read (List String × String × Bool) :=
  let (list, cs) := match cs with
    | '[' :: cs => (true, cs)
    | cs => (false, cs)
  match readKey? depthLimit cs with
  | some (key, ']' :: rest) =>
    let rest? := if list then
        match rest with
        | ']' :: rest => some rest
        | _ => none
      else some rest
    match rest?.bind afterLine?, key.getLast? with
    | some rest, some k => some ((key.dropLast, k, list), rest)
    | _, _ => none
  | _ => none

/-- The lines of a document; `table` is the path of the table that is open. -/
def readDocument? : (fuel : Nat) → (table : List String) → Entries → List Char → Option Entries
  | 0, _, _, _ => none
  | fuel + 1, table, es, cs =>
    match skipLines cs.length cs with
    | [] => some es
    | '[' :: cs =>
      match readHeader? cs with
      | none => none
      | some ((path, k, list), rest) =>
        match if list then openNext? path k es else open? path k es with
        | none => none
        | some es => readDocument? fuel (path ++ [k]) es rest
    | cs =>
      match readAssignment? (readValue? depthLimit) cs with
      | none => none
      | some ((path, k, v), rest) =>
        match insert? table path k v es, afterLine? rest with
        | some es, some rest => readDocument? fuel table es rest
        | _, _ => none

/-- The table that a document describes; a byte order mark in front is passed over. -/
def parse? (text : String) : Option Json :=
  let cs := match text.toList with
    | '\ufeff' :: cs => cs
    | cs => cs
  (readDocument? (cs.length + 1) [] [] cs).map fun es => .object (membersOf es)

end SessionWatch.Toml
