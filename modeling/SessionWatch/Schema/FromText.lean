/-
# Reading values of a shape from texts

A text is read straight into the values of a shape, so the first fault of
either kind is the one reported: a wrong shape before a missing brace, or the
other way round. A value that nobody asked for is passed over. A mismatch that
concerns a whole list or object is reported after its closing bracket, if that
comes next.

Key definitions: `Shape.read`, `Fields.readMember`, `Fields.readItems`,
`Shape.decode`.
-/
import SessionWatch.Schema.FromValue
import SessionWatch.Json.Skip

namespace SessionWatch

open Json (Mismatch Found Fault Read Malformed skipSpace)

/-- The complaint about a value that starts with `bs` and is not what is wanted. A list or an
object is not read for it. -/
def complain (wanted : String) (bs : Bytes) : Fault :=
  match bs with
  | [] => .at .endInValue []
  | b :: rest =>
    if b = 0x5B then .shape (.wrongType .sequence wanted) bs
    else if b = 0x7B then .shape (.wrongType .map wanted) bs
    else match Json.readScalar b rest with
      | .error f => f
      | .ok (v, rest) => .shape (.wrongType v.found wanted) rest

/-- Gives a mismatch its place. -/
def placed {α : Type} (rest : Bytes) : Except Mismatch α → Read α
  | .ok a => .ok (a, rest)
  | .error m => .error (.shape m rest)

/-- What is left after a closing byte, if it comes next. -/
def pastClosing (closing : UInt8) (bs : Bytes) : Bytes :=
  match skipSpace bs with
  | b :: rest => if b = closing then rest else b :: rest
  | [] => []

/-- Reads a text that stands where `wanted` is wanted. -/
def readWanted (wanted : String) (bs : Bytes) : Read String :=
  match skipSpace bs with
  | 0x22 :: rest => Json.readText rest
  | bs => .error (complain wanted bs)

/-- Reads a number that stands where `wanted` is wanted. -/
def readCount (bound : Nat) (wanted : String) (bs : Bytes) : Read Nat :=
  match skipSpace bs with
  | [] => .error (complain wanted [])
  | b :: rest =>
    if b = 0x2D ∨ Json.isDigit b then
      match Json.readNumber (b ≠ 0x2D) (if b = 0x2D then rest else b :: rest) with
      | .error f => .error f
      | .ok (n, rest) => placed rest (n.count bound wanted)
    else .error (complain wanted (b :: rest))

/-- Reads `null`, which is all that may stand under a name. -/
def readUnit (bs : Bytes) : Except Fault Bytes :=
  match skipSpace bs with
  | 0x6E :: rest => (Json.readWord () [0x75, 0x6C, 0x6C] rest).map (·.2)
  | bs => .error (complain "unit" bs)

/-- Reads the key of an object that must have a member. -/
def readKey (bs : Bytes) : Read String :=
  match skipSpace bs with
  | [] => .error (.at .endInObject [])
  | b :: rest =>
    if b = 0x22 then Json.readText rest
    else .error (.at (if b = 0x7D then .valueExpected else .keyExpected) (b :: rest))

/-- Reads a name, alone or as the key of its null. -/
def Naming.readText {α : Type} (n : Naming α) (depth : Nat) (bs : Bytes) : Read α :=
  match skipSpace bs with
  | [] => .error (.at .endInValue [])
  | b :: rest =>
    if b = 0x22 then
      match Json.readText rest with
      | .error f => .error f
      | .ok (name, rest) => placed rest (n.read name)
    else if b = 0x7B then
      if depth = 0 then .error (.at .tooDeep (b :: rest)) else
      match readKey rest with
      | .error f => .error f
      | .ok (name, rest) =>
        match placed rest (n.read name) with
        | .error f => .error f
        | .ok (a, rest) =>
          match Json.readColon rest with
          | .error f => .error f
          | .ok rest =>
            match readUnit rest with
            | .error f => .error f
            | .ok rest =>
              match skipSpace rest with
              | [] => .error (.before .endInObject [])
              | 0x7D :: rest => .ok (a, rest)
              | rest => .error (.before .valueExpected rest)
    else .error (.at .valueExpected (b :: rest))

/-- Where the next item of a list starts: `none` at its end. -/
def nextItem (first : Bool) (bs : Bytes) : Except Fault (Option Bytes) :=
  match skipSpace bs with
  | [] => .error (.at .endInList [])
  | b :: rest =>
    if b = 0x5D then .ok none
    else if first then .ok (some (b :: rest))
    else if b = 0x2C then
      match skipSpace rest with
      | [] => .error (.at .endInValue [])
      | c :: rest =>
        if c = 0x5D then .error (.at .trailingComma (c :: rest)) else .ok (some (c :: rest))
    else .error (.at .commaOrEndOfList (b :: rest))

/-- The end of a list that has all the items it may have. -/
def endOfList (bs : Bytes) : Except Fault Bytes :=
  match skipSpace bs with
  | [] => .error (.at .endInList [])
  | 0x5D :: rest => .ok rest
  | 0x2C :: rest =>
    match skipSpace rest with
    | 0x5D :: rest => .error (.at .trailingComma (0x5D :: rest))
    | rest => .error (.at .trailingCharacters rest)
  | rest => .error (.at .trailingCharacters rest)

mutual

/-- Reads a value of a shape; at most `depth` brackets may stand inside one another, and
`limit` is the length of the whole text. -/
def Shape.read {α : Type} : Shape α → (limit depth : Nat) → Bytes → Read α
  | .text wanted, _, _, bs => readWanted wanted bs
  | .flag, _, _, bs =>
    match skipSpace bs with
    | 0x74 :: rest => Json.readWord true [0x72, 0x75, 0x65] rest
    | 0x66 :: rest => Json.readWord false [0x61, 0x6C, 0x73, 0x65] rest
    | bs => .error (complain "a boolean" bs)
  | .count bound wanted, _, _, bs => readCount bound wanted bs
  | .oneOf naming, _, depth, bs => naming.readText depth bs
  | .any, limit, depth, bs =>
    match Json.readValue limit depth bs with
    | .error f => .error f
    | .ok (v, rest) => .ok (v.canonical, rest)
  | .optional s, limit, depth, bs =>
    match skipSpace bs with
    | 0x6E :: rest => Json.readWord none [0x75, 0x6C, 0x6C] rest
    | bs =>
      match s.read limit depth bs with
      | .error f => .error f
      | .ok (v, rest) => .ok (some v, rest)
  | .list s, limit, depth, bs =>
    match skipSpace bs, depth with
    | 0x5B :: rest, 0 => .error (.at .tooDeep (0x5B :: rest))
    | 0x5B :: rest, depth + 1 => Json.readList (s.read limit depth) limit rest
    | bs, _ => .error (complain "a sequence" bs)
  | .dict s, limit, depth, bs =>
    match skipSpace bs, depth with
    | 0x7B :: rest, 0 => .error (.at .tooDeep (0x7B :: rest))
    | 0x7B :: rest, depth + 1 =>
      Json.readMembers (fun acc key rest =>
        match Json.readColon rest with
        | .error f => .error f
        | .ok rest =>
          match s.read limit depth rest with
          | .error f => .error f
          | .ok (v, rest) => .ok (Json.put key v acc, rest)) limit [] rest
    | bs, _ => .error (complain "a map" bs)
  | .record title fields, limit, depth, bs =>
    match skipSpace bs, depth with
    | 0x5B :: rest, 0 => .error (.at .tooDeep (0x5B :: rest))
    | 0x7B :: rest, 0 => .error (.at .tooDeep (0x7B :: rest))
    | 0x5B :: rest, depth + 1 =>
      match fields.readItems (lengthWanted title fields.size) limit depth 0 rest with
      | .error f => .error f
      | .ok (a, rest) =>
        match endOfList rest with
        | .error f => .error f
        | .ok rest => .ok (a, rest)
    | 0x7B :: rest, depth + 1 =>
      match Json.readMembers (fields.readMember limit depth) limit fields.noSlots rest with
      | .error f => .error f
      | .ok (slots, rest) => placed rest (fields.finish slots)
    | bs, _ => .error (complain title bs)
  | .refine s check _, limit, depth, bs =>
    match s.read limit depth bs with
    | .error f => .error f
    | .ok (a, rest) => placed rest ((check a).mapError .ofWords)
termination_by structural s => s

/-- Reads a member, from behind its key, into the slot of its field. -/
def Fields.readMember {α σ : Type} : Fields α σ → (limit depth : Nat) → σ → String → Bytes →
    Read σ
  | .nil, limit, _, slots, _, bs =>
    match Json.readColon bs with
    | .error f => .error f
    | .ok rest =>
      match Json.skipValue limit rest with
      | .error f => .error f
      | .ok rest => .ok (slots, rest)
  | .cons name aliases s _ _ rest, limit, depth, (slot, slots), key, bs =>
    if key = name ∨ key ∈ aliases then
      match slot with
      | some _ => .error (.shape (.duplicateField name) (pastClosing 0x7D bs))
      | none =>
        match Json.readColon bs with
        | .error f => .error f
        | .ok bs =>
          match s.read limit depth bs with
          | .error f => .error f
          | .ok (v, bs) => .ok ((some v, slots), bs)
    else
      match rest.readMember limit depth slots key bs with
      | .error f => .error f
      | .ok (slots, bs) => .ok ((slot, slots), bs)
termination_by structural fs => fs

/-- Reads the list form of a record, up to its closing bracket; `index` counts the fields
before. -/
def Fields.readItems {α σ : Type} (wanted : String) : Fields α σ → (limit depth index : Nat) →
    Bytes → Read α
  | .nil, _, _, _, bs => .ok ((), bs)
  | .cons _ _ s absence _ rest, limit, depth, index, bs =>
    match nextItem (index = 0) bs with
    | .error f => .error f
    | .ok none =>
      match absence with
      | .required | .implied _ => .error (.shape (.wrongLength index wanted) (pastClosing 0x5D bs))
      | .defaulted v =>
        match rest.readItems wanted limit depth (index + 1) bs with
        | .error f => .error f
        | .ok (vs, bs) => .ok ((v, vs), bs)
    | .ok (some bs) =>
      match s.read limit depth bs with
      | .error f => .error f
      | .ok (v, bs) =>
        match rest.readItems wanted limit depth (index + 1) bs with
        | .error f => .error f
        | .ok (vs, bs) => .ok ((v, vs), bs)
termination_by structural fs => fs

end

/-- The value of a shape that a whole text holds. -/
def Shape.decode {α : Type} (s : Shape α) (text : Bytes) : Except Json.Refusal α :=
  (Json.readWhole (fun limit => s.read limit Json.depthLimit) text).mapError (·.within text)

end SessionWatch
