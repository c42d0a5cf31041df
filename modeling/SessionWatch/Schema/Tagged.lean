/-
# Records that name their kind

One member of a record, the tag, says which kind of record it is. The rest is
set aside as it is written until the tag is known; a tag may also be the first
item of a list. What was set aside has no places, so a mismatch in it is
reported without one.

Key definitions: `readTagged`, `decodeTagged`.
-/
import SessionWatch.Schema.FromText

namespace SessionWatch

open Json (Mismatch Fault Read skipSpace)

/-- Reads the name that a tag has. -/
def readTag {α : Type} (naming : Naming α) (bs : Bytes) : Read α :=
  match readWanted "variant identifier" bs with
  | .error f => .error f
  | .ok (name, rest) => placed rest (naming.read name)

/-- Reads a member of a tagged record: the tag, or one that is set aside. -/
def readTaggedMember {α : Type} (tag : String) (naming : Naming α) (limit depth : Nat)
    (seen : Option α × List (String × Json)) (key : String) (bs : Bytes) :
    Read (Option α × List (String × Json)) :=
  if key = tag then
    match seen.1 with
    | some _ => .error (.shape (.duplicateField tag) (pastClosing 0x7D bs))
    | none =>
      match Json.readColon bs with
      | .error f => .error f
      | .ok rest =>
        match readTag naming rest with
        | .error f => .error f
        | .ok (a, rest) => .ok ((some a, seen.2), rest)
  else
    match Json.readMember (Json.readValue limit depth) seen.2 key bs with
    | .error f => .error f
    | .ok (members, rest) => .ok ((seen.1, members), rest)

/-- Reads the items of a tagged list after its tag. -/
def readRestOfList (limit depth : Nat) (bs : Bytes) : Read (List Json) :=
  match nextItem false bs with
  | .error f => .error f
  | .ok none => .ok ([], pastClosing 0x5D bs)
  | .ok (some bs) => Json.readItems (Json.readValue limit depth) limit [] bs

/-- Reads a tagged record: its kind and what was set aside. -/
def readTagged {α : Type} (tag title : String) (naming : Naming α) (limit depth : Nat)
    (bs : Bytes) : Read (α × Json) :=
  match skipSpace bs, depth with
  | 0x5B :: rest, 0 => .error (.at .tooDeep (0x5B :: rest))
  | 0x7B :: rest, 0 => .error (.at .tooDeep (0x7B :: rest))
  | 0x5B :: rest, depth + 1 =>
    match nextItem true rest with
    | .error f => .error f
    | .ok none => .error (.shape (.missingField tag) (pastClosing 0x5D rest))
    | .ok (some rest) =>
      match readTag naming rest with
      | .error f => .error f
      | .ok (a, rest) =>
        match readRestOfList limit depth rest with
        | .error f => .error f
        | .ok (items, rest) => .ok ((a, .array items), rest)
  | 0x7B :: rest, depth + 1 =>
    match Json.readMembers (readTaggedMember tag naming limit depth) limit (none, []) rest with
    | .error f => .error f
    | .ok ((none, _), rest) => .error (.shape (.missingField tag) rest)
    | .ok ((some a, members), rest) => .ok ((a, .object members.reverse), rest)
  | bs, _ => .error (complain title bs)

/-- The tagged record that a whole text holds, its content read by kind. -/
def decodeTagged {α β : Type} (tag title : String) (naming : Naming α)
    (content : α → Json → Except Mismatch β) (text : Bytes) : Except Json.Refusal β :=
  match Json.readWhole (fun limit => readTagged tag title naming limit Json.depthLimit) text with
  | .error f => .error (f.within text)
  | .ok (a, v) => (content a v).mapError fun m => ⟨.mismatch m, none⟩

end SessionWatch
