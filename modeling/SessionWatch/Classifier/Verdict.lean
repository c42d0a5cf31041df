/-
# Verdicts

A classifier is asked whether a message waits for the user, and what it prints
is searched for its answer: the output as JSON, else the JSON between the
first brace and the last, else the first line that is a verdict line. A
verdict line is a word for a verdict, in letters of either case, perhaps with
`VERDICT:` before it and a remark or one mark behind it.

Key definitions: `Verdict`, `Verdict.ofLine?`, `Verdict.ofJson?`,
`Verdict.ofOutput`.
-/
import SessionWatch.Json.Reader
import SessionWatch.Session.Basic
import SessionWatch.Text.Blank
import SessionWatch.Text.Tail

namespace SessionWatch

/-- Whether an agent is done or waits for the user. -/
inductive Verdict where
  | idle
  | waitingInput
  deriving DecidableEq

namespace Verdict

/-- The state that a session is in by a verdict. -/
def state : Verdict → State
  | .idle => .idle
  | .waitingInput => .waitingInput

/-! ## Verdict lines -/

/-- The words for the verdicts, in capital letters; a word stands before those that begin it. -/
def words : List (List Char × Verdict) :=
  [("WAITING_INPUT".toList, .waitingInput), ("WAITING".toList, .waitingInput),
   ("DONE".toList, .idle), ("IDLE".toList, .idle)]

/-- What is left after a word, which is given in capital letters. -/
def afterWord? : (word : List Char) → List Char → Option (List Char)
  | [], cs => some cs
  | _ :: _, [] => none
  | w :: word, c :: cs => if c.toUpper = w then afterWord? word cs else none

/-- What is left after `VERDICT` and a colon or an equals sign. -/
def afterLabel? (cs : List Char) : Option (List Char) :=
  match (afterWord? "VERDICT".toList cs).map Text.dropBlanks with
  | some (':' :: rest) | some ('=' :: rest) => some (Text.dropBlanks rest)
  | _ => none

/-- A remark without a line feed, set off by a blank. -/
def isRemark : List Char → Bool
  | c :: cs => Text.isBlank c && !(Text.dropBlanks cs).contains '\n'
  | [] => false

/-- What may stand behind the word: a remark after a hyphen or a colon, a remark in
parentheses, or one mark. -/
def isEnding (cs : List Char) : Bool :=
  match Text.dropBlanks cs with
  | [] => true
  | '-' :: rest | ':' :: rest => isRemark rest
  | '(' :: rest => rest.dropWhile (· ≠ ')') = [')']
  | ['.'] | ['!'] | ['?'] => true
  | _ => false

/-- The verdict of a word with its ending. -/
def ofWord? (cs : List Char) : Option Verdict :=
  words.findSome? fun (word, v) => if (afterWord? word cs).any isEnding then some v else none

/-- The verdict of a line, if it is a verdict line; blanks at its ends do not count. -/
def ofLine? (line : List Char) : Option Verdict :=
  let cs := Text.trimChars line
  ofWord? ((afterLabel? cs).getD cs)

/-! ## JSON -/

/-- The keys under which a verdict may stand, the first one first. -/
def keys : List String := ["verdict", "state", "status", "classification"]

mutual

/-- The verdict of a value: a verdict line, or an object with a verdict under one of the keys
or else with a flag for waiting. -/
def ofJson? : Json → Option Verdict
  | .string s => ofLine? s.toList
  | .object members =>
    let found := ofMembers members
    match keys.findSome? fun k => (Json.find? k found).join, Json.find? "needs_input" members with
    | some v, _ => some v
    | none, some (.bool true) => some .waitingInput
    | none, some (.bool false) => some .idle
    | none, _ => none
  | _ => none
termination_by structural v => v

/-- The verdict of every member. -/
def ofMembers : List (String × Json) → List (String × Option Verdict)
  | [] => []
  | (k, v) :: ms => (k, ofJson? v) :: ofMembers ms
termination_by structural ms => ms

end

/-! ## Output -/

/-- The characters from the first opening brace to the last closing one. -/
def braced? (cs : List Char) : Option (List Char) :=
  let fromFirst := cs.dropWhile (· ≠ '\x7b')
  let upToLast := (fromFirst.reverse.dropWhile (· ≠ '\x7d')).reverse
  if upToLast.isEmpty then none else some upToLast

/-- The verdict that stands in an output as JSON; an output that is JSON as a whole is not
searched for braces. -/
def ofJsonIn? (cs : List Char) : Option Verdict :=
  match Json.parse? (Text.utf8 (String.ofList cs)) with
  | some v => ofJson? v
  | none => ((braced? cs).bind fun cs => Json.parse? (Text.utf8 (String.ofList cs))).bind ofJson?

/-- Why an output has no verdict. -/
inductive Missing where
  | blank
  | noVerdict (beginning : String)
  deriving DecidableEq

/-- What is told about an output without a verdict. -/
def Missing.message : Missing → String
  | .blank => "classifier returned an empty response"
  | .noVerdict beginning => "no verdict in classifier output: " ++ beginning

/-- How many characters of an output a complaint shows. -/
def snippetLength : Nat := 120

/-- The verdict that a classifier printed. -/
def ofOutput (output : String) : Except Missing Verdict :=
  let cs := Text.trimChars output.toList
  if cs.isEmpty then .error .blank
  else match ofJsonIn? cs, (Text.cutLines cs).findSome? ofLine? with
    | some v, _ | none, some v => .ok v
    | none, none => .error (.noVerdict (Text.snippet (String.ofList cs) snippetLength))

end Verdict

end SessionWatch
