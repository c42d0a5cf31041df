/-
# Tables of a TOML document

A document is built entry by entry, and the rules about what may still be
added depend on how a table came to be: under its own header, as a part of a
longer header, or as a part of a dotted key. A table has one header at most,
and a dotted key reaches only tables that dotted keys made.

Key definitions: `Toml.Node`, `Toml.Made`, `Toml.insert?`, `Toml.open?`,
`Toml.openNext?`, `Toml.Node.toJson`.
-/
import SessionWatch.Json.Value

namespace SessionWatch.Toml

/-- How a table came to be. -/
inductive Made where
  /-- By its own header, or between braces. -/
  | opened
  /-- As a part of a longer header. -/
  | implied
  /-- As a part of a dotted key. -/
  | dotted
  deriving DecidableEq

inductive Node where
  | value (v : Json)
  | table (made : Made) (entries : List (String × Node))
  /-- A list of tables; the last one may still grow. -/
  | tables (earlier : List Json) (last : List (String × Node))

abbrev Entries := List (String × Node)

mutual

def Node.toJson : Node → Json
  | .value v => v
  | .table _ entries => .object (membersOf entries)
  | .tables earlier last => .array (earlier ++ [.object (membersOf last)])
termination_by structural n => n

def membersOf : List (String × Node) → List (String × Json)
  | [] => []
  | (k, n) :: rest => (k, n.toJson) :: membersOf rest
termination_by structural es => es

end

/-- Changes the entries of the table at a path; tables that are missing on the way are made as
`made`. A dotted key does not enter a table that has a header. -/
def at? (made : Made) (path : List String) (f : Made → Entries → Option Entries) (here : Made)
    (es : Entries) : Option Entries :=
  match path with
  | [] => f here es
  | k :: path =>
    match Json.find? k es with
    | none => (at? made path f made []).map fun inner => Json.put k (.table made inner) es
    | some (.table m inner) =>
      if made = .dotted ∧ m = .opened then none
      else (at? made path f m inner).map fun inner => Json.put k (.table m inner) es
    | some (.tables earlier last) =>
      (at? made path f .opened last).map fun last => Json.put k (.tables earlier last) es
    | some (.value _) => none

/-- Enters a value under a key that is free. -/
def enter? (k : String) (n : Node) (es : Entries) : Option Entries :=
  match Json.find? k es with
  | none => some (Json.put k n es)
  | some _ => none

/-- Enters a value under a dotted key: a dotted key puts values only into tables that dotted
keys made, a plain key only into the others. -/
def insertHere? (path : List String) (k : String) (v : Json) (here : Made) (es : Entries) :
    Option Entries :=
  at? .dotted path
    (fun made es => if made = .dotted ↔ path = [] then none else enter? k (.value v) es) here es

/-- Enters a value under a dotted key of the table at `table`. -/
def insert? (table path : List String) (k : String) (v : Json) (root : Entries) :
    Option Entries :=
  at? .implied table (insertHere? path k v) .opened root

/-- Opens a table: it may be there only as a part of a longer header. -/
def open? (path : List String) (k : String) (root : Entries) : Option Entries :=
  at? .implied path (fun _ es =>
    match Json.find? k es with
    | none => some (Json.put k (.table .opened []) es)
    | some (.table .implied inner) => some (Json.put k (.table .opened inner) es)
    | some _ => none) .opened root

/-- Opens the next table of a list of tables. -/
def openNext? (path : List String) (k : String) (root : Entries) : Option Entries :=
  at? .implied path (fun _ es =>
    match Json.find? k es with
    | none => some (Json.put k (.tables [] []) es)
    | some (.tables earlier last) =>
      some (Json.put k (.tables (earlier ++ [.object (membersOf last)]) []) es)
    | some _ => none) .opened root

end SessionWatch.Toml
