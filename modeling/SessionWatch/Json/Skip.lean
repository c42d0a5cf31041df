/-
# Passing over JSON values

The value of a field that nobody asked for is passed over without being built:
its texts need not be well-formed UTF-16 pairs, its numbers may be of any size
and its brackets may stand at any depth. The brackets that are open are kept
in a list.

Key definitions: `Json.skipText`, `Json.skipNumber`, `Json.skipValue`.
-/
import SessionWatch.Json.Reader

namespace SessionWatch.Json

/-- Where a passage over a text stands: between characters, after a backslash, or within the
digits of an escape. -/
inductive SkipState where
  | plain
  | escape
  | digits (count : Nat) (fine : Bool)

/-- Passes over a text after its opening quote. -/
def skipTextFrom : SkipState → Bytes → Except Fault Bytes
  | _, [] => .error (.before .endInText [])
  | .plain, b :: bs =>
    if b = 0x22 then .ok bs
    else if b = 0x5C then skipTextFrom .escape bs
    else if b < 0x20 then .error (.before .controlCharacter (b :: bs))
    else skipTextFrom .plain bs
  | .escape, b :: bs =>
    if b = 0x75 then skipTextFrom (.digits 0 true) bs
    else if (shortEscape? b).isSome then skipTextFrom .plain bs
    else .error (.before .invalidEscape bs)
  | .digits count fine, b :: bs =>
    let fine := fine && (hexDigit? b).isSome
    if count < 3 then skipTextFrom (.digits (count + 1) fine) bs
    else if fine then skipTextFrom .plain bs
    else .error (.before .invalidEscape bs)

def skipText (bs : Bytes) : Except Fault Bytes := skipTextFrom .plain bs

/-- Passes over the digits of an exponent, at least one. -/
def skipExponentDigits : Bytes → Except Fault Bytes
  | [] => .error (.before .invalidNumber [])
  | b :: bs => if isDigit b then .ok (dropDigits bs) else .error (.before .invalidNumber bs)

/-- Passes over an exponent after its `e`. -/
def skipExponent : Bytes → Except Fault Bytes
  | 0x2B :: bs => skipExponentDigits bs
  | 0x2D :: bs => skipExponentDigits bs
  | bs => skipExponentDigits bs

def skipExponent? : Bytes → Except Fault Bytes
  | 0x65 :: bs => skipExponent bs
  | 0x45 :: bs => skipExponent bs
  | bs => .ok bs

/-- Passes over what follows the leading digits of a number. -/
def skipFraction : Bytes → Except Fault Bytes
  | 0x2E :: bs =>
    if digitNext bs then skipExponent? (dropDigits bs) else .error (.at .invalidNumber bs)
  | bs => skipExponent? bs

/-- Passes over a number after its sign. -/
def skipNumber : Bytes → Except Fault Bytes
  | [] => .error (.before .invalidNumber [])
  | b :: bs =>
    if b = 0x30 then
      if digitNext bs then .error (.at .invalidNumber bs) else skipFraction bs
    else if isDigit b then skipFraction (dropDigits bs)
    else .error (.before .invalidNumber bs)

/-- An open bracket. -/
inductive Bracket where
  | list
  | object

/-- Passes over the key of a member and its colon. -/
def skipKey (bs : Bytes) : Except Fault Bytes :=
  match skipSpace bs with
  | [] => .error (.at .endInObject [])
  | 0x22 :: rest =>
    match skipText rest with
    | .error f => .error f
    | .ok rest => readColon rest
  | rest => .error (.at .keyExpected rest)

/-- What comes after a bracket or a value inside the open brackets: `none` when all of them are
closed, otherwise the brackets still open and the place of the next value. `comma` says that a
value has just ended. -/
def skipToNext : List Bracket → (comma : Bool) → Bytes →
    Except Fault (Option (List Bracket) × Bytes)
  | [], _, bs => .ok (none, bs)
  | bracket :: outer, comma, bs =>
    let within (rest : Bytes) : Except Fault (Option (List Bracket) × Bytes) :=
      match bracket with
      | .list => .ok (some (bracket :: outer), rest)
      | .object =>
        match skipKey rest with
        | .error f => .error f
        | .ok rest => .ok (some (bracket :: outer), rest)
    match skipSpace bs, bracket with
    | [], .list => .error (.at .endInList [])
    | [], .object => .error (.at .endInObject [])
    | b :: rest, _ =>
      if comma ∧ b = 0x2C then within rest
      else if b = (match bracket with | .list => 0x5D | .object => 0x7D) then
        skipToNext outer true rest
      else if comma then
        .error (.at (match bracket with
          | .list => .commaOrEndOfList
          | .object => .commaOrEndOfObject) (b :: rest))
      else within (b :: rest)

/-- Passes over a value that is neither a list nor an object, from its first byte. -/
def skipScalar (b : UInt8) (bs : Bytes) : Except Fault Bytes :=
  if b = 0x6E then (readWord () [0x75, 0x6C, 0x6C] bs).map (·.2)
  else if b = 0x74 then (readWord () [0x72, 0x75, 0x65] bs).map (·.2)
  else if b = 0x66 then (readWord () [0x61, 0x6C, 0x73, 0x65] bs).map (·.2)
  else if b = 0x22 then skipText bs
  else if b = 0x2D then skipNumber bs
  else if isDigit b then skipNumber (b :: bs)
  else .error (.at .valueExpected (b :: bs))

/-- Passes over values until all brackets in `opened` are closed. -/
def skipValues : (limit : Nat) → (opened : List Bracket) → Bytes → Except Fault Bytes
  | 0, _, bs => .error (.before .endInValue bs)
  | limit + 1, opened, bs =>
    let next (opened : List Bracket) (comma : Bool) (rest : Bytes) : Except Fault Bytes :=
      match skipToNext opened comma rest with
      | .error f => .error f
      | .ok (none, rest) => .ok rest
      | .ok (some opened, rest) => skipValues limit opened rest
    match skipSpace bs with
    | [] => .error (.at .endInValue [])
    | b :: rest =>
      if b = 0x5B then next (.list :: opened) false rest
      else if b = 0x7B then next (.object :: opened) false rest
      else match skipScalar b rest with
        | .error f => .error f
        | .ok rest => next opened true rest

/-- Passes over one value. -/
def skipValue (limit : Nat) (bs : Bytes) : Except Fault Bytes := skipValues (limit + 1) [] bs

end SessionWatch.Json
