/-
# Reading values of a shape from JSON values

A value that is already parsed has no places any more, so a mismatch is all
that can be said. Where the value comes from decides two questions: whether a
list may hold more than the fields of a record, and whether an empty object
may stand for the null of a name.

Key definitions: `Source`, `Shape.ofJson`, `Fields.fill`, `Fields.ofItems`.
-/
import SessionWatch.Schema.Shape

namespace SessionWatch

open Json (Mismatch Found)

/-- Where a value comes from. -/
inductive Source where
  /-- It was parsed on its own. -/
  | parsed
  /-- It was set aside while a tag was looked for. -/
  | buffered
  /-- It was read from a table of settings. -/
  | settings

def Json.found : Json → Found
  | .null => .null
  | .bool b => .bool b
  | .number (.int z) => .int z
  | .number (.double x) => .double x
  | .string s => .text s
  | .array _ => .sequence
  | .object _ => .map

def wrongType {α : Type} (v : Json) (wanted : String) : Except Mismatch α :=
  .error (.wrongType v.found wanted)

/-- The integer that a number is, if it is below a bound. -/
def Json.Number.count (bound : Nat) (wanted : String) : Json.Number → Except Mismatch Nat
  | .int z =>
    if 0 ≤ z ∧ z < bound then .ok z.toNat else .error (.wrongValue (.int z) wanted)
  | .double x => .error (.wrongType (.double x) wanted)

/-- The value with a name. -/
def Naming.read {α : Type} (n : Naming α) (name : String) : Except Mismatch α :=
  match n.find? name with
  | some a => .ok a
  | none => .error (.unknownVariant name (n.all.map n.name))

/-- A name, alone or as the key of its null. -/
def Naming.ofJson {α : Type} (source : Source) (n : Naming α) : Json → Except Mismatch α
  | .string name => n.read name
  | .object [(name, payload)] =>
    match n.read name with
    | .error m => .error m
    | .ok a =>
      match payload, source with
      | .null, _ | .object [], .buffered => .ok a
      | v, _ => wrongType v "unit"
  | .object _ => .error (.wrongValue .map "map with a single key")
  | v => wrongType v "string or map"

/-- Whether the list form of a record may have this many items more than it has fields. -/
def checkSurplus (source : Source) (length size : Nat) : Except Mismatch Unit :=
  if length ≤ size then .ok ()
  else match source with
    | .parsed => .error (.wrongLength length "fewer elements in array")
    | .buffered => .error (.wrongLength length
        (toString size ++ (if size = 1 then " element" else " elements") ++ " in sequence"))
    | .settings => .ok ()

/-- Applies a reader to each item, in order. -/
def readEach {α β : Type} (f : α → Except Mismatch β) (acc : List β) :
    List α → Except Mismatch (List β)
  | [] => .ok acc.reverse
  | a :: as =>
    match f a with
    | .error m => .error m
    | .ok b => readEach f (b :: acc) as

/-- Applies a step to each member, in order. -/
def foldMembers {σ : Type} (step : σ → String → Json → Except Mismatch σ) (s : σ) :
    List (String × Json) → Except Mismatch σ
  | [] => .ok s
  | (k, v) :: ms =>
    match step s k v with
    | .error m => .error m
    | .ok s => foldMembers step s ms

mutual

/-- The value that a JSON value stands for. -/
def Shape.ofJson {α : Type} (source : Source) : Shape α → Json → Except Mismatch α
  | .text wanted, v =>
    match v with
    | .string s => .ok s
    | v => wrongType v wanted
  | .flag, v =>
    match v with
    | .bool b => .ok b
    | v => wrongType v "a boolean"
  | .count bound wanted, v =>
    match v with
    | .number n => n.count bound wanted
    | v => wrongType v wanted
  | .oneOf naming, v => naming.ofJson source v
  | .any, v => .ok v.canonical
  | .optional s, v =>
    match v with
    | .null => .ok none
    | v =>
      match s.ofJson source v with
      | .error m => .error m
      | .ok a => .ok (some a)
  | .list s, v =>
    match v with
    | .array items => readEach (s.ofJson source) [] items
    | v => wrongType v "a sequence"
  | .dict s, v =>
    match v with
    | .object members =>
      foldMembers (fun acc k v => (s.ofJson source v).map (Json.put k · acc)) [] members
    | v => wrongType v "a map"
  | .record title fields, v =>
    match v with
    | .array items =>
      match fields.ofItems source (lengthWanted title fields.size) 0 items with
      | .error m => .error m
      | .ok a => (checkSurplus source items.length fields.size).map fun _ => a
    | .object members =>
      match foldMembers (fields.fill source) fields.noSlots members with
      | .error m => .error m
      | .ok slots => fields.finish slots
    | v => wrongType v title
  | .refine s check _, v =>
    match s.ofJson source v with
    | .error m => .error m
    | .ok a => (check a).mapError .ofWords
termination_by structural s => s

/-- Reads a member into the slot of its field; a key that no field has is passed over. -/
def Fields.fill {α σ : Type} (source : Source) : Fields α σ → σ → String → Json →
    Except Mismatch σ
  | .nil, slots, _, _ => .ok slots
  | .cons name aliases s _ _ rest, (slot, slots), key, v =>
    if key = name ∨ key ∈ aliases then
      match slot with
      | some _ => .error (.duplicateField name)
      | none =>
        match s.ofJson source v with
        | .error m => .error m
        | .ok a => .ok (some a, slots)
    else
      match rest.fill source slots key v with
      | .error m => .error m
      | .ok slots => .ok (slot, slots)
termination_by structural fs => fs

/-- Reads the list form of a record; `index` counts the fields before. -/
def Fields.ofItems {α σ : Type} (source : Source) (wanted : String) : Fields α σ →
    (index : Nat) → List Json → Except Mismatch α
  | .nil, _, _ => .ok ()
  | .cons _ _ s absence _ rest, index, items =>
    match items, absence with
    | [], .required | [], .implied _ => .error (.wrongLength index wanted)
    | [], .defaulted v =>
      match rest.ofItems source wanted (index + 1) [] with
      | .error m => .error m
      | .ok vs => .ok (v, vs)
    | item :: items, _ =>
      match s.ofJson source item with
      | .error m => .error m
      | .ok v =>
        match rest.ofItems source wanted (index + 1) items with
        | .error m => .error m
        | .ok vs => .ok (v, vs)
termination_by structural fs => fs

end

end SessionWatch
