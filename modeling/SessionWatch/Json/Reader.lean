/-
# Reading JSON values

A value is read by recursion on the number of brackets that may still open, so
a text nested deeper than `Json.depthLimit` is refused and not followed.
`Json.parse` reads a whole text and keeps the members of objects as written.

Key definitions: `Json.readValue`, `Json.depthLimit`, `Json.parse`.
-/
import SessionWatch.Json.Scan

namespace SessionWatch.Json

/-- How many lists and objects may stand inside one another. -/
def depthLimit : Nat := 127

/-- Puts a member behind those read so far, which are in reverse. -/
def readMember (value : Bytes → Read Json) (acc : List (String × Json)) (key : String)
    (bs : Bytes) : Read (List (String × Json)) :=
  match readColon bs with
  | .error f => .error f
  | .ok rest =>
    match value rest with
    | .error f => .error f
    | .ok (v, rest) => .ok ((key, v) :: acc, rest)

/-- Reads a value that is neither a list nor an object, from its first byte. -/
def readScalar (b : UInt8) (bs : Bytes) : Read Json :=
  if b = 0x6E then readWord .null [0x75, 0x6C, 0x6C] bs
  else if b = 0x74 then readWord (.bool true) [0x72, 0x75, 0x65] bs
  else if b = 0x66 then readWord (.bool false) [0x61, 0x6C, 0x73, 0x65] bs
  else if b = 0x22 then
    match readText bs with
    | .error f => .error f
    | .ok (s, rest) => .ok (.string s, rest)
  else if b = 0x2D then
    match readNumber false bs with
    | .error f => .error f
    | .ok (n, rest) => .ok (.number n, rest)
  else if isDigit b then
    match readNumber true (b :: bs) with
    | .error f => .error f
    | .ok (n, rest) => .ok (.number n, rest)
  else .error (.at .valueExpected (b :: bs))

/-- Reads a value in which at most `depth` brackets stand inside one another. -/
def readValue (limit : Nat) : (depth : Nat) → Bytes → Read Json
  | depth, bs =>
    match skipSpace bs with
    | [] => .error (.at .endInValue [])
    | b :: rest =>
      if b = 0x5B then
        match depth with
        | 0 => .error (.at .tooDeep (b :: rest))
        | depth + 1 =>
          match readList (readValue limit depth) limit rest with
          | .error f => .error f
          | .ok (items, rest) => .ok (.array items, rest)
      else if b = 0x7B then
        match depth with
        | 0 => .error (.at .tooDeep (b :: rest))
        | depth + 1 =>
          match readMembers (readMember (readValue limit depth)) limit [] rest with
          | .error f => .error f
          | .ok (members, rest) => .ok (.object members.reverse, rest)
      else readScalar b rest

/-- Nothing but space may follow a value. -/
def readEnd (bs : Bytes) : Except Fault Unit :=
  match skipSpace bs with
  | [] => .ok ()
  | rest => .error (.at .trailingCharacters rest)

/-- Reads a whole text with a reader that is told the length of the text. -/
def readWhole {α : Type} (reader : (limit : Nat) → Bytes → Read α) (text : Bytes) :
    Except Fault α :=
  match reader text.length text with
  | .error f => .error f
  | .ok (v, rest) =>
    match readEnd rest with
    | .error f => .error f
    | .ok () => .ok v

/-- The value that a text holds, as it is written. -/
def parse (text : Bytes) : Except Refusal Json :=
  (readWhole (fun limit => readValue limit depthLimit) text).mapError (·.within text)

/-- The value that a text holds, if it is JSON. -/
def parse? (text : Bytes) : Option Json := (parse text).toOption.map canonical

end SessionWatch.Json
