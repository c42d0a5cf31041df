/-
# Writing values of a shape

Key definitions: `Shape.toJson`, `Fields.toMembers`.
-/
import SessionWatch.Schema.Shape

namespace SessionWatch

mutual

/-- The JSON value that stands for a value. -/
def Shape.toJson {α : Type} : Shape α → α → Json
  | .text _, s => .string s
  | .flag, b => .bool b
  | .count _ _, n => .number (.int n)
  | .oneOf naming, v => .string (naming.name v)
  | .any, v => v
  | .optional s, v =>
    match v with
    | none => .null
    | some v => s.toJson v
  | .list s, vs => .array (vs.map s.toJson)
  | .dict s, ms => .object (ms.map fun m => (m.1, s.toJson m.2))
  | .record _ fields, v => .object (fields.toMembers v)
  | .refine s _ back, v => s.toJson (back v)
termination_by structural s => s

/-- The members of a record, in the order of its fields and without hidden values. -/
def Fields.toMembers {α σ : Type} : Fields α σ → α → List (String × Json)
  | .nil, _ => []
  | .cons name _ s _ hidden rest, (v, vs) =>
    if hidden v then rest.toMembers vs else (name, s.toJson v) :: rest.toMembers vs
termination_by structural fs => fs

end

end SessionWatch
