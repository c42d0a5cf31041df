/-
# The shapes of wire values

A shape says which JSON values stand for the values of a type, and one
description serves every direction: writing a value, reading it from a text,
reading it from a value that was parsed before. A record is a list of fields,
each with its names, its shape and what an absent field means; the values of a
record are nested pairs, which `Shape.refine` turns into a structure.

Key definitions: `Naming`, `Absence`, `Shape`, `Fields`, `Fields.finish`.
-/
import SessionWatch.Json.Fault
import SessionWatch.Json.Value

namespace SessionWatch

/-- Names for the values of a type; `other` is the value of every other name, if there is one. -/
structure Naming (α : Type) where
  all : List α
  name : α → String
  other : Option α

/-- The value with a name. -/
def Naming.find? {α : Type} (n : Naming α) (name : String) : Option α :=
  (n.all.find? fun a => n.name a = name) <|> n.other

/-- What it means that a field is absent. -/
inductive Absence (α : Type) where
  /-- The record is refused. -/
  | required
  /-- An object may leave the field out, a list may not. -/
  | implied (v : α)
  /-- An object or a list may leave the field out. -/
  | defaulted (v : α)

mutual

/-- The JSON values that stand for the values of a type. -/
inductive Shape : Type → Type 1 where
  /-- A text; `wanted` is what a message says is wanted. -/
  | text (wanted : String) : Shape String
  | flag : Shape Bool
  /-- An integer below a bound. -/
  | count (bound : Nat) (wanted : String) : Shape Nat
  /-- A name, alone or as the key of an object of one member that is null. -/
  | oneOf {α : Type} (naming : Naming α) : Shape α
  /-- Any value. -/
  | any : Shape Json
  /-- A value or null. -/
  | optional {α : Type} (s : Shape α) : Shape (Option α)
  | list {α : Type} (s : Shape α) : Shape (List α)
  /-- An object with any keys, kept in their order. -/
  | dict {α : Type} (s : Shape α) : Shape (List (String × α))
  /-- An object with known fields, or the list of their values. -/
  | record {α σ : Type} (title : String) (fields : Fields α σ) : Shape α
  /-- Values that pass a check, turned into those of another type. -/
  | refine {α β : Type} (s : Shape α) (check : α → Except String β) (back : β → α) : Shape β

/-- The fields of a record: the first type is that of its values, the second that of the
values read so far. -/
inductive Fields : Type → Type → Type 1 where
  | nil : Fields Unit Unit
  /-- A field; a value that is `hidden` is not written. -/
  | cons {α β σ : Type} (name : String) (aliases : List String) (s : Shape α)
      (absence : Absence α) (hidden : α → Bool) (rest : Fields β σ) :
      Fields (α × β) (Option α × σ)

end

/-- A shape under a one-to-one change of type. -/
def Shape.via {α β : Type} (s : Shape α) (into : α → β) (back : β → α) : Shape β :=
  .refine s (fun a => .ok (into a)) back

namespace Fields

def size {α σ : Type} : Fields α σ → Nat
  | .nil => 0
  | .cons _ _ _ _ _ rest => rest.size + 1

/-- No field read so far. -/
def noSlots {α σ : Type} : Fields α σ → σ
  | .nil => ()
  | .cons _ _ _ _ _ rest => (none, rest.noSlots)

/-- The record, once all members of the object are read. -/
def finish {α σ : Type} : Fields α σ → σ → Except Json.Mismatch α
  | .nil, _ => .ok ()
  | .cons name _ _ absence _ rest, (slot, slots) =>
    match slot, absence with
    | none, .required => .error (.missingField name)
    | some v, _ | none, .implied v | none, .defaulted v =>
      match rest.finish slots with
      | .error m => .error m
      | .ok vs => .ok (v, vs)

end Fields

/-- How a message about its length describes the list form of a record. -/
def lengthWanted (title : String) (size : Nat) : String :=
  title ++ " with " ++ toString size ++ (if size = 1 then " element" else " elements")

/-- What a message about an integer wants. -/
def wordBound : Nat := Nat.pow 2 64

end SessionWatch
