/-
# Reading JSON from bytes: the pieces

Each reader takes the bytes from where it stands and gives what it read with
the bytes that are left, so that a reader is described by what it leaves. A
reader of texts is a machine with one step for each byte; a list or an object
is read by a loop over a reader of its items or members.

Key definitions: `Json.skipSpace`, `Json.readText`, `Json.readNumber`,
`Json.readList`, `Json.readMembers`.
-/
import SessionWatch.Json.Fault
import SessionWatch.Json.Value
import SessionWatch.Decimal.Scaling

namespace SessionWatch.Json

/-- The result of reading: a value and the bytes left. -/
abbrev Read (α : Type) := Except Fault (α × Bytes)

/-- Space between tokens: blank, tab, line feed, carriage return. -/
def isSpace (b : UInt8) : Bool := b = 0x20 || b = 0x09 || b = 0x0A || b = 0x0D

/-- What is left after the blanks. -/
def skipSpace (bs : Bytes) : Bytes := bs.dropWhile isSpace

/-- Reads the rest of a word whose first letter stands before `bs`. -/
def readWord {α : Type} (v : α) : (word : Bytes) → (bs : Bytes) → Read α
  | [], bs => .ok (v, bs)
  | _ :: _, [] => .error (.before .endInValue [])
  | w :: word, b :: bs => if b = w then readWord v word bs else .error (.before .wordExpected bs)

/-! ## Texts -/

def hexDigit? (b : UInt8) : Option Nat :=
  if 0x30 ≤ b ∧ b ≤ 0x39 then some (b.toNat - 0x30)
  else if 0x41 ≤ b ∧ b ≤ 0x46 then some (b.toNat - 0x37)
  else if 0x61 ≤ b ∧ b ≤ 0x66 then some (b.toNat - 0x57)
  else none

/-- The byte that a short escape stands for. -/
def shortEscape? (b : UInt8) : Option UInt8 :=
  if b = 0x22 ∨ b = 0x5C ∨ b = 0x2F then some b
  else if b = 0x62 then some 0x08
  else if b = 0x66 then some 0x0C
  else if b = 0x6E then some 0x0A
  else if b = 0x72 then some 0x0D
  else if b = 0x74 then some 0x09
  else none

/-- Where a reader of a text stands. -/
inductive TextState where
  /-- Between characters. -/
  | plain
  /-- After a backslash. -/
  | escape
  /-- After `\u` and some of its digits; `lead` is the first half of a surrogate pair. -/
  | digits (lead : Option Nat) (count : Nat) (value : Option Nat)
  /-- After the first half of a surrogate pair. -/
  | backslash (lead : Nat)
  /-- After the first half of a surrogate pair and a backslash. -/
  | letter (lead : Nat)

/-- What four hexadecimal digits lead to: a character, or the wait for the other half of a pair. -/
def endDigits (lead : Option Nat) (value : Option Nat) : Except Malformed (TextState × Bytes) :=
  match value, lead with
  | none, _ => .error .invalidEscape
  | some n, none =>
    if 0xDC00 ≤ n ∧ n ≤ 0xDFFF then .error .loneSurrogate
    else if 0xD800 ≤ n ∧ n ≤ 0xDBFF then .ok (.backslash n, [])
    else .ok (.plain, String.utf8EncodeChar (Char.ofNat n))
  | some n, some lead =>
    if 0xDC00 ≤ n ∧ n ≤ 0xDFFF then
      .ok (.plain, String.utf8EncodeChar
        (Char.ofNat (0x10000 + (lead - 0xD800) * 0x400 + (n - 0xDC00))))
    else .error .loneSurrogate

/-- The fault of a text that is read to its end, with `rest` left, and is not UTF-8. It lies as
many bytes before that end as the text has from its first broken one on, escapes counted as the
bytes they stand for. -/
def brokenText (bytes rest : Bytes) : Fault :=
  ⟨.malformed .notUtf8, rest.length + Text.brokenLength bytes⟩

/-- Reads a text after its opening quote; `acc` has the bytes read so far, latest first. -/
def readTextFrom (acc : Bytes) : TextState → Bytes → Read String
  | _, [] => .error (.before .endInText [])
  | .plain, b :: bs =>
    if b = 0x22 then
      match Text.ofUtf8? acc.reverse with
      | some s => .ok (s, bs)
      | none => .error (brokenText acc.reverse bs)
    else if b = 0x5C then readTextFrom acc .escape bs
    else if b < 0x20 then .error (.before .controlCharacter bs)
    else readTextFrom (b :: acc) .plain bs
  | .escape, b :: bs =>
    if b = 0x75 then readTextFrom acc (.digits none 0 (some 0)) bs
    else match shortEscape? b with
      | some c => readTextFrom (c :: acc) .plain bs
      | none => .error (.before .invalidEscape bs)
  | .digits lead count value, b :: bs =>
    let value := value.bind fun v => (hexDigit? b).map (v * 16 + ·)
    if count < 3 then readTextFrom acc (.digits lead (count + 1) value) bs
    else match endDigits lead value with
      | .error m => .error (.before m bs)
      | .ok (state, bytes) => readTextFrom (bytes.reverse ++ acc) state bs
  | .backslash lead, b :: bs =>
    if b = 0x5C then readTextFrom acc (.letter lead) bs
    else .error (.before .halfSurrogatePair bs)
  | .letter lead, b :: bs =>
    if b = 0x75 then readTextFrom acc (.digits (some lead) 0 (some 0)) bs
    else .error (.before .halfSurrogatePair bs)

/-- Reads a text after its opening quote. -/
def readText (bs : Bytes) : Read String := readTextFrom [] .plain bs

/-! ## Numbers -/

def isDigit (b : UInt8) : Bool := 0x30 ≤ b && b ≤ 0x39

def digitValue (b : UInt8) : Nat := b.toNat - 0x30

def dropDigits (bs : Bytes) : Bytes := bs.dropWhile isDigit

/-- Whether a digit comes next. -/
def digitNext : Bytes → Bool
  | b :: _ => isDigit b
  | [] => false

/-- Takes digits as long as the significand stays below `bound`; `count` is how many. -/
def absorb (bound significand count : Nat) : Bytes → Nat × Nat × Bytes
  | [] => (significand, count, [])
  | b :: bs =>
    let next := significand * 10 + digitValue b
    if isDigit b ∧ next < bound then absorb bound next (count + 1) bs
    else (significand, count, b :: bs)

def signed (positive : Bool) (x : Float) : Float := if positive then x else -x

/-- A double once all its digits are read. -/
def endDouble (positive : Bool) (significand : Nat) (exponent : Int) (bs : Bytes) : Read Number :=
  match Decimal.scale? significand exponent with
  | some x => .ok (.double (signed positive x), bs)
  | none => .error (.before .numberOutOfRange bs)

/-- Reads the digits of an exponent. -/
def readExponentDigits (positive : Bool) (significand : Nat) (start : Int) (up : Bool)
    (bs : Bytes) : Read Number :=
  match bs with
  | [] => .error (.before .endInValue [])
  | b :: rest =>
    if isDigit b then
      let (e, _, rest) := absorb (Nat.pow 2 31) (digitValue b) 0 rest
      if digitNext rest then
        if significand ≠ 0 ∧ up then .error (.before .numberOutOfRange (rest.drop 1))
        else .ok (.double (signed positive 0), dropDigits rest)
      else endDouble positive significand (if up then start + e else start - e) rest
    else .error (.before .invalidNumber rest)

/-- Reads an exponent after its `e`. -/
def readExponent (positive : Bool) (significand : Nat) (start : Int) : Bytes → Read Number
  | 0x2B :: bs => readExponentDigits positive significand start true bs
  | 0x2D :: bs => readExponentDigits positive significand start false bs
  | bs => readExponentDigits positive significand start true bs

/-- Reads an exponent, if one comes next. -/
def readExponent? (positive : Bool) (significand : Nat) (start : Int) : Bytes → Read Number
  | 0x65 :: bs => readExponent positive significand start bs
  | 0x45 :: bs => readExponent positive significand start bs
  | bs => endDouble positive significand start bs

/-- Reads the places after a decimal point. -/
def readPlaces (positive : Bool) (significand : Nat) (start : Int) (bs : Bytes) : Read Number :=
  if digitNext bs then
    let (s, count, rest) := absorb (Nat.pow 2 64) significand 0 bs
    readExponent? positive s (start - count) (dropDigits rest)
  else .error (.at (if bs = [] then .endInValue else .invalidNumber) bs)

/-- An integer of 64 bits, or the nearest double; zero has a sign only as a double. -/
def endInteger (positive : Bool) (significand : Nat) : Number :=
  if positive then .int significand
  else if significand = 0 ∨ Nat.pow 2 63 < significand then
    .double (-(UInt64.ofNat significand).toFloat)
  else .int (-significand)

/-- Reads what follows the leading digits of a number. -/
def readFraction (positive : Bool) (significand : Nat) : Bytes → Read Number
  | 0x2E :: bs => readPlaces positive significand 0 bs
  | 0x65 :: bs => readExponent positive significand 0 bs
  | 0x45 :: bs => readExponent positive significand 0 bs
  | bs => .ok (endInteger positive significand, bs)

/-- Reads what follows the leading digits of a number too long for 64 bits. -/
def readLongFraction (positive : Bool) (significand : Nat) (exponent : Int) : Bytes → Read Number
  | 0x2E :: bs => readPlaces positive significand exponent bs
  | bs => readExponent? positive significand exponent bs

/-- Reads a number after its sign. -/
def readNumber (positive : Bool) : Bytes → Read Number
  | [] => .error (.before .endInValue [])
  | b :: bs =>
    if b = 0x30 then
      if digitNext bs then .error (.at .invalidNumber bs) else readFraction positive 0 bs
    else if isDigit b then
      let (s, _, rest) := absorb (Nat.pow 2 64) (digitValue b) 0 bs
      if digitNext rest then
        readLongFraction positive s (rest.takeWhile isDigit).length (dropDigits rest)
      else readFraction positive s rest
    else .error (.before .invalidNumber bs)

/-! ## Lists and objects -/

/-- Reads the items of a list from its first one on; `acc` has those read so far, latest first.
A list has at most `limit` of them: the length of the text is always enough. -/
def readItems {α : Type} (item : Bytes → Read α) : (limit : Nat) → (acc : List α) → Bytes →
    Read (List α)
  | 0, _, bs => .error (.before .endInList bs)
  | limit + 1, acc, bs =>
    match item bs with
    | .error f => .error f
    | .ok (v, rest) =>
      match skipSpace rest with
      | 0x5D :: rest => .ok ((v :: acc).reverse, rest)
      | 0x2C :: rest =>
        match skipSpace rest with
        | [] => .error (.at .endInValue [])
        | 0x5D :: rest => .error (.at .trailingComma (0x5D :: rest))
        | rest => readItems item limit (v :: acc) rest
      | [] => .error (.at .endInList [])
      | rest => .error (.at .commaOrEndOfList rest)

/-- Reads a list after its opening bracket. -/
def readList {α : Type} (item : Bytes → Read α) (limit : Nat) (bs : Bytes) : Read (List α) :=
  match skipSpace bs with
  | [] => .error (.at .endInList [])
  | 0x5D :: rest => .ok ([], rest)
  | rest => readItems item limit [] rest

/-- Reads the colon after a key. -/
def readColon (bs : Bytes) : Except Fault Bytes :=
  match skipSpace bs with
  | 0x3A :: rest => .ok rest
  | [] => .error (.at .endInObject [])
  | rest => .error (.at .colonExpected rest)

/-- Reads the members of an object from the quote of the first key on, handing each key and
what follows it to `member`. -/
def readMembersFrom {σ : Type} (member : σ → String → Bytes → Read σ) : (limit : Nat) → σ →
    Bytes → Read σ
  | 0, _, bs => .error (.before .endInObject bs)
  | _ + 1, _, [] => .error (.at .endInValue [])
  | limit + 1, s, b :: bs =>
    if b = 0x22 then
      match readText bs with
      | .error f => .error f
      | .ok (key, rest) =>
        match member s key rest with
        | .error f => .error f
        | .ok (s, rest) =>
          match skipSpace rest with
          | 0x7D :: rest => .ok (s, rest)
          | 0x2C :: rest =>
            match skipSpace rest with
            | 0x7D :: rest => .error (.at .trailingComma (0x7D :: rest))
            | rest => readMembersFrom member limit s rest
          | [] => .error (.at .endInObject [])
          | rest => .error (.at .commaOrEndOfObject rest)
    else .error (.at .keyExpected (b :: bs))

/-- Reads an object after its opening brace. -/
def readMembers {σ : Type} (member : σ → String → Bytes → Read σ) (limit : Nat) (s : σ)
    (bs : Bytes) : Read σ :=
  match skipSpace bs with
  | [] => .error (.at .endInObject [])
  | 0x7D :: rest => .ok (s, rest)
  | rest => readMembersFrom member limit s rest

end SessionWatch.Json
