/-
# Small programs

Shell lines are mostly made of small programs. Each takes arguments and an input
and leaves an output, a message, what it did not read, a status and the time
that it took. They know bytes only.

Key definitions: `Utility.Call`, `Utility.Effect`, `Utility.readOptions`,
`Utility.Lines`.
-/
import SessionWatch.Files.Tree
import SessionWatch.Text.Octet

namespace SessionWatch.Utility

/-- A time at which nothing that is waited for is still awaited. -/
def never : Nat := Nat.pow 2 80

/-- What a program is called with. -/
structure Call where
  name : String
  args : List String
  input : List Char
  files : Files
  environment : List (String × String)

/-- What a program did. -/
structure Effect where
  output : String := ""
  errors : String := ""
  /-- What is left of its input; none if its end was seen. -/
  rest : Option (List Char)
  /-- How many bytes it reads at once, if they are there. -/
  block : Nat := 1
  status : Nat := 0
  ms : Nat := 0
  /-- It would print for ever. -/
  endless : Bool := false
  /-- The files after it, if they changed. -/
  files : Option Files := none

/-- A program that prints something and reads nothing. -/
def Call.prints (c : Call) (output : String) (status : Nat) : Effect :=
  { output := output, rest := some c.input, status := status }

/-- A program that complains and reads nothing. -/
def Call.fails (c : Call) (why : String) (status : Nat) : Effect :=
  { errors := c.name ++ ": " ++ why ++ "\n", rest := some c.input, status := status }

/-- The words that the system has for a fault. -/
def describe : Files.Fault → String
  | .missing => "No such file or directory"
  | .busy => "Device or resource busy"
  | .alreadyThere => "File exists"
  | .notDirectory => "Not a directory"
  | .isDirectory => "Is a directory"
  | .nulByte | .invalid => "Invalid argument"
  | .nameTooLong => "File name too long"

/-- The content of a file, or of the input if the name is a hyphen. -/
def Call.open (c : Call) (name : String) : Except Files.Fault (List Char) :=
  if name = "-" ∨ name = "/dev/stdin" then .ok c.input
  else match c.files.lookup name with
    | .error f => .error f
    | .ok (_, .file content) => .ok (Text.ofBytes content).toList
    | .ok (_, _) => .error .isDirectory

/-- What the operands of a program hold, one after the other; without operands it is the input,
which is empty the second time. The second part has a complaint for each operand that cannot be
read. -/
def Call.contents (c : Call) (operands : List String) : List (String × List Char) × String :=
  (if operands.isEmpty then ["-"] else operands).foldl
    (fun acc name =>
      match c.open name with
      | .ok cs =>
        let again := name = "-" && acc.1.any fun p => p.1 = "-"
        (acc.1 ++ [(name, if again then [] else cs)], acc.2)
      | .error f => (acc.1, acc.2 ++ c.name ++ ": " ++ name ++ ": " ++ describe f ++ "\n"))
    ([], "")

/-- What is left of the input when operands were read: nothing if the input is one of them. -/
def Call.after (c : Call) (operands : List String) : Option (List Char) :=
  if operands.isEmpty ∨ operands.contains "-" ∨ operands.contains "/dev/stdin" then none
  else some c.input

/-- A program that never ends. What it prints is held back until it fills a block; a program that
fills none prints nothing. -/
def Effect.unending (e : Effect) : Effect :=
  if e.output.utf8ByteSize < 4096 then { e with output := "", ms := never }
  else { e with endless := true }

/-- A program that prints something about all that its operands hold. -/
def Call.maps (c : Call) (operands : List String) (f : List Char → List Char) : Effect :=
  let (contents, errors) := c.contents operands
  { output := String.ofList (f (contents.flatMap (·.2))), errors := errors
    rest := c.after operands, status := if errors = "" then 0 else 1 }

/-! ## Options -/

/-- The options that a program knows: letters, those with a value, and long names for both. -/
structure Known where
  flags : String := ""
  valued : String := ""
  long : List (String × Char) := []

/-- Why options cannot be read. -/
inductive Misuse where
  | unknown (c : Char)
  | unknownName (name : String)
  | noValue (c : Char)
  | noValueFor (name : String)
  | unwanted (name : String)

/-- What is told about options that cannot be read. -/
def Misuse.message : Misuse → String
  | .unknown c => "invalid option -- '" ++ String.singleton c ++ "'"
  | .unknownName name => "unrecognized option '--" ++ name ++ "'"
  | .noValue c => "option requires an argument -- '" ++ String.singleton c ++ "'"
  | .noValueFor name => "option '--" ++ name ++ "' requires an argument"
  | .unwanted name => "option '--" ++ name ++ "' doesn't allow an argument"

/-- The options of one argument, behind its hyphen; the arguments behind it may give a value. -/
def readLetters (k : Known) : List Char → List String →
    Except Misuse (List (Char × String) × List String)
  | [], args => .ok ([], args)
  | c :: cs, args =>
    if k.valued.contains c then
      match cs, args with
      | [], v :: args => .ok ([(c, v)], args)
      | [], [] => .error (.noValue c)
      | cs, args => .ok ([(c, String.ofList cs)], args)
    else if k.flags.contains c then
      (readLetters k cs args).map fun (os, args) => ((c, "") :: os, args)
    else .error (.unknown c)

/-- A long option: its letter, and its value, which may be the next argument. The beginning of a
name stands for it if there is only one such name. -/
def readLong (k : Known) (text : String) (args : List String) :
    Except Misuse ((Char × String) × List String) :=
  let name := String.ofList (text.toList.takeWhile (· ≠ '='))
  let letter? := match k.long.lookup name, k.long.filter fun p => p.1.startsWith name with
    | some c, _ => some c
    | none, [p] => some p.2
    | none, _ => none
  match letter? with
  | none => .error (.unknownName text)
  | some c =>
    if k.valued.contains c then
      if name.length < text.length then .ok ((c, (text.drop (name.length + 1)).toString), args)
      else match args with
        | v :: args => .ok ((c, v), args)
        | [] => .error (.noValueFor name)
    else if name.length < text.length then .error (.unwanted name) else .ok ((c, ""), args)

/-- Options and operands, in any order if `mixed`; two hyphens end the options. -/
def readOptions (k : Known) (mixed : Bool) : (fuel : Nat) → List String →
    Except Misuse (List (Char × String) × List String)
  | 0, _ | _, [] => .ok ([], [])
  | fuel + 1, a :: args =>
    match a.toList with
    | ['-', '-'] => .ok ([], args)
    | '-' :: '-' :: text =>
      match readLong k (String.ofList text) args with
      | .error why => .error why
      | .ok (o, args) =>
        (readOptions k mixed fuel args).map fun (os, operands) => (o :: os, operands)
    | '-' :: c :: cs =>
      match readLetters k (c :: cs) args with
      | .error why => .error why
      | .ok (here, args) =>
        (readOptions k mixed fuel args).map fun (os, operands) => (here ++ os, operands)
    | _ =>
      if mixed then
        (readOptions k mixed fuel args).map fun (os, operands) => (os, a :: operands)
      else .ok ([], a :: args)

/-- Options given, with their values. -/
structure Options where
  given : List (Char × String)
  operands : List String

def Options.has (o : Options) (c : Char) : Bool := o.given.any (·.1 = c)

/-- The value that was given last. -/
def Options.value? (o : Options) (c : Char) : Option String := o.given.reverse.lookup c

/-- The options of a call. -/
def Call.options (c : Call) (k : Known) (mixed : Bool) : Except Misuse Options :=
  (readOptions k mixed (c.args.length + 1) c.args).map fun (os, operands) => ⟨os, operands⟩

/-- A program that complains and tells where help is. -/
def Call.refuses (c : Call) (why : String) (status : Nat) : Effect :=
  c.fails (why ++ "\nTry '" ++ c.name ++ " --help' for more information.") status

/-- What a program says about options that it cannot read. -/
def Call.misused (c : Call) (why : Misuse) (status : Nat) : Effect := c.refuses why.message status

/-! ## Lines -/

/-- The lines of a text without their ends, and whether the last one has an end. -/
structure Lines where
  lines : List (List Char)
  closed : Bool

def Lines.ofChars (cs : List Char) : Lines :=
  let (line, lines) := cs.foldl
    (fun (acc : List Char × List (List Char)) c =>
      if c = '\n' then ([], acc.1.reverse :: acc.2) else (c :: acc.1, acc.2))
    ([], [])
  if line.isEmpty then ⟨lines.reverse, true⟩ else ⟨(line.reverse :: lines).reverse, false⟩

/-- Every line with an end. -/
def unlines (lines : List (List Char)) : List Char := lines.flatMap (· ++ ['\n'])

/-- Every line with an end, the last one only if it had one. -/
def Lines.toChars (l : Lines) : List Char :=
  let cs := unlines l.lines
  if l.closed then cs else cs.dropLast

/-- A text cut at every separator. -/
def split (separator : Char) (cs : List Char) : List (List Char) :=
  cs.foldr
    (fun c acc =>
      match acc with
      | [] => [[c]]
      | w :: ws => if c = separator then [] :: w :: ws else (c :: w) :: ws)
    [[]]

/-- The words of a text, which blanks separate. -/
def words (cs : List Char) : List (List Char) :=
  let (word, done) := cs.foldl
    (fun (acc : List Char × List (List Char)) c =>
      if c = ' ' ∨ (0x09 ≤ c.toNat ∧ c.toNat ≤ 0x0D) then
        (([] : List Char), if acc.1.isEmpty then acc.2 else acc.1.reverse :: acc.2)
      else (c :: acc.1, acc.2))
    ([], [])
  (if word.isEmpty then done else word.reverse :: done).reverse

/-- The number that digits write in base ten. -/
def digitsValue (cs : List Char) : Nat :=
  cs.foldl (fun n c => n * 10 + (c.toNat - '0'.toNat)) 0

/-- A number without a sign. -/
def number? (s : String) : Option Nat :=
  let cs := s.toList
  if cs.isEmpty ∨ ¬ cs.all Char.isDigit then none else some (digitsValue cs)

/-- A number with or without a sign. -/
def integer? (s : String) : Option Int :=
  match s.toList with
  | '-' :: cs => (number? (String.ofList cs)).map fun n => -(n : Int)
  | '+' :: cs => (number? (String.ofList cs)).map fun n => (n : Int)
  | cs => (number? (String.ofList cs)).map fun n => (n : Int)

/-- A text filled on the left up to a width. -/
def padLeft (width : Nat) (fill : Char) (s : String) : String :=
  String.ofList (List.replicate (width - s.length) fill) ++ s

end SessionWatch.Utility
