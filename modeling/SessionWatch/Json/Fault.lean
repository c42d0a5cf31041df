/-
# Why a text is refused

A text can fail to be JSON, or be JSON of another shape than the one wanted.
`Json.Cause` lists the reasons, `Json.Cause.message` words them. A fault found
in a text also has its place: the line, counted from one, and the number of
bytes read of that line. Words that end with a place, as in `no such state at
line 2 column 5`, tell that place instead.

Key definitions: `Json.Malformed`, `Json.Mismatch`, `Json.Mismatch.ofWords`, `Json.Cause`,
`Json.Fault`, `Json.Place.after`, `Json.Refusal.message`.
-/
import SessionWatch.Text.Utf8
import SessionWatch.Text.Quoted
import SessionWatch.Decimal.Shortest

namespace SessionWatch.Json

/-- Ways in which a text is not JSON. -/
inductive Malformed where
  | endInValue
  | endInList
  | endInObject
  | endInText
  | colonExpected
  | commaOrEndOfList
  | commaOrEndOfObject
  | wordExpected
  | valueExpected
  | invalidEscape
  | invalidNumber
  | numberOutOfRange
  | notUtf8
  | controlCharacter
  | keyExpected
  | loneSurrogate
  | halfSurrogatePair
  | trailingComma
  | trailingCharacters
  | tooDeep
  deriving DecidableEq

/-- What is told about a text that is not JSON. -/
def Malformed.message : Malformed → String
  | .endInValue => "EOF while parsing a value"
  | .endInList => "EOF while parsing a list"
  | .endInObject => "EOF while parsing an object"
  | .endInText => "EOF while parsing a string"
  | .colonExpected => "expected `:`"
  | .commaOrEndOfList => "expected `,` or `]`"
  | .commaOrEndOfObject => "expected `,` or `\x7d`"
  | .wordExpected => "expected ident"
  | .valueExpected => "expected value"
  | .invalidEscape => "invalid escape"
  | .invalidNumber => "invalid number"
  | .numberOutOfRange => "number out of range"
  | .notUtf8 => "invalid unicode code point"
  | .controlCharacter => "control character (\\u0000-\\u001F) found while parsing a string"
  | .keyExpected => "key must be a string"
  | .loneSurrogate => "lone leading surrogate in hex escape"
  | .halfSurrogatePair => "unexpected end of hex escape"
  | .trailingComma => "trailing comma"
  | .trailingCharacters => "trailing characters"
  | .tooDeep => "recursion limit exceeded"

/-- What stood where something else was wanted. -/
inductive Found where
  | null
  | bool (b : Bool)
  | int (z : Int)
  | double (x : Float)
  | text (s : String)
  | sequence
  | map

/-- Doubles have an exponent from ten to the sixteenth on and below ten to the minus fifth. -/
def doubleLayout : Decimal.Layout := ⟨-5, 15, true⟩

/-- How a value is called in a complaint. -/
def Found.describe : Found → String
  | .null => "null"
  | .bool b => "boolean `" ++ (if b then "true" else "false") ++ "`"
  | .int z => "integer `" ++ toString z ++ "`"
  | .double x => "floating point `" ++ doubleLayout.double x ++ "`"
  | .text s => "string " ++ Text.quoted s
  | .sequence => "sequence"
  | .map => "map"

/-- A place in a text. -/
structure Place where
  line : Nat
  column : Nat

/-- How a place is told at the end of a message. -/
def Place.words (p : Place) : String :=
  " at line " ++ toString p.line ++ " column " ++ toString p.column

/-- Ways in which a value has another shape than the one wanted. -/
inductive Mismatch where
  | wrongType (found : Found) (wanted : String)
  | wrongValue (found : Found) (wanted : String)
  | wrongLength (length : Nat) (wanted : String)
  | missingField (name : String)
  | duplicateField (name : String)
  | unknownVariant (name : String) (known : List String)
  /-- Words of its own, and a place of its own if they end with one. -/
  | other (words : String) (place : Option Place)

/-- The number of 64 bits that a text ends with, and the text before it, both read backwards. -/
def numberBehind? (cs : List Char) : Option (Nat × List Char) :=
  let digits := cs.takeWhile Char.isDigit
  let n := digits.foldr (fun c n => n * 10 + (c.toNat - '0'.toNat)) 0
  if digits = [] ∨ Nat.pow 2 64 ≤ n then none else some (n, cs.dropWhile Char.isDigit)

/-- The text before a word that a text ends with, both texts read backwards. -/
def wordBehind? (word : String) (cs : List Char) : Option (List Char) :=
  word.toList.reverse.isPrefixOf? cs

/-- Reads the place that words end with, and gives the words before it. -/
def splitPlace? (words : String) : Option (String × Place) := do
  let (column, cs) ← numberBehind? words.toList.reverse
  let cs ← wordBehind? " column " cs
  let (line, cs) ← numberBehind? cs
  let cs ← wordBehind? " at line " cs
  return (String.ofList cs.reverse, ⟨line, column⟩)

/-- The mismatch that words tell. A place at their end is taken for its place; lines count from
one, so that line zero is dropped and names no place. -/
def Mismatch.ofWords (words : String) : Mismatch :=
  match splitPlace? words with
  | some (words, p) => .other words (if p.line = 0 then none else some p)
  | none => .other words none

/-- What is told about a value of another shape. -/
def Mismatch.message : Mismatch → String
  | .wrongType found wanted => "invalid type: " ++ found.describe ++ ", expected " ++ wanted
  | .wrongValue found wanted => "invalid value: " ++ found.describe ++ ", expected " ++ wanted
  | .wrongLength n wanted => "invalid length " ++ toString n ++ ", expected " ++ wanted
  | .missingField name => "missing field `" ++ name ++ "`"
  | .duplicateField name => "duplicate field `" ++ name ++ "`"
  | .unknownVariant name known =>
    "unknown variant `" ++ name ++ "`, expected one of "
      ++ ", ".intercalate (known.map fun k => "`" ++ k ++ "`")
  | .other words none => words
  | .other words (some p) => words ++ p.words

/-- Why a text is refused. -/
inductive Cause where
  | malformed (m : Malformed)
  | mismatch (m : Mismatch)

/-- What is told about the cause. -/
def Cause.message : Cause → String
  | .malformed m => m.message
  | .mismatch m => m.message

/-- The place that a cause tells itself. -/
def Cause.place? : Cause → Option Place
  | .mismatch (.other _ p) => p
  | _ => none

/-- A cause and the number of bytes that were left when it was found. -/
structure Fault where
  cause : Cause
  left : Nat

/-- A fault of the bytes before `rest`. -/
def Fault.before (m : Malformed) (rest : Bytes) : Fault := ⟨.malformed m, rest.length⟩

/-- A fault of the first byte of `rest`, or of the end of the text. -/
def Fault.at (m : Malformed) (rest : Bytes) : Fault := ⟨.malformed m, (rest.drop 1).length⟩

/-- A shape that was found to be wrong when `rest` was left. -/
def Fault.shape (m : Mismatch) (rest : Bytes) : Fault := ⟨.mismatch m, rest.length⟩

/-- The place after these bytes. -/
def Place.after (bs : Bytes) : Place where
  line := 1 + bs.count 0x0A
  column := (bs.reverse.takeWhile (· ≠ 0x0A)).length

/-- Why a value is refused, and where, if it was read from a text. -/
structure Refusal where
  cause : Cause
  place : Option Place

/-- What is told about a text that is refused, with the place. -/
def Refusal.message (r : Refusal) : String :=
  match r.place with
  | none => r.cause.message
  | some p => r.cause.message ++ p.words

/-- A fault seen from the whole text. A cause that tells its own place is given no other. -/
def Fault.within (f : Fault) (text : Bytes) : Refusal :=
  match f.cause.place? with
  | some _ => ⟨f.cause, none⟩
  | none => ⟨f.cause, some (.after (text.take (text.length - f.left)))⟩

end SessionWatch.Json
