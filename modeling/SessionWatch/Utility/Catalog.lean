/-
# The small programs by name

Key definitions: `Utility.find?`, `Utility.names`.
-/
import SessionWatch.Shell.Echo
import SessionWatch.Utility.Awk.Run
import SessionWatch.Utility.Edit
import SessionWatch.Utility.Encoding
import SessionWatch.Utility.Errand
import SessionWatch.Utility.Excerpt
import SessionWatch.Utility.Number
import SessionWatch.Utility.Place
import SessionWatch.Utility.Search
import SessionWatch.Utility.Table
import SessionWatch.Utility.Test

namespace SessionWatch.Utility

/-- The letters of options in front of the arguments of echo. -/
def echoLetters : List String → List Char × List String
  | a :: args =>
    match a.toList with
    | '-' :: l :: ls =>
      if (l :: ls).all fun c => c = 'n' || c = 'e' || c = 'E' then
        let (more, rest) := echoLetters args
        (l :: ls ++ more, rest)
      else ([], a :: args)
    | _ => ([], a :: args)
  | [] => ([], [])

/-- Prints its arguments. -/
def echo (c : Call) : Effect :=
  let (letters, args) := echoLetters c.args
  let text := " ".intercalate args
  let escapes := (letters.filter (· ≠ 'n')).getLast? = some 'e'
  let (text, more) := if escapes then (Shell.echoEscapes true).expand text else (text, true)
  c.prints (if more ∧ ¬ letters.contains 'n' then text ++ "\n" else text) 0

/-- How a program reads a format. -/
def programStyle : Printf.Style where
  format := { hex := true, unicode := true, quotes := true, stop := true }
  argument := { zero := true, hex := true, unicode := true, quotes := true, stop := true }

/-- Prints its arguments in a format. -/
def printf (c : Call) : Effect :=
  let args := if c.args.head? = some "--" then c.args.drop 1 else c.args
  match args with
  | [] => c.fails "missing operand\nTry 'printf --help' for more information." 1
  | format :: args =>
    let (text, flaws, known) := Printf.print programStyle format args
    let complaints := flaws.map fun (a, flaw) => "printf: '" ++ a ++ "': " ++ (match flaw with
      | .partly => "value not completely converted\n"
      | .noNumber => "expected a numeric value\n"
      | .tooLarge => "Numerical result out of range\n")
    { c.prints text (if flaws.isEmpty ∧ known then 0 else 1) with
      errors := String.join complaints
        ++ (if known then "" else "printf: invalid conversion specification\n") }

/-- Tells the truth of a test by its status. -/
def test (look : String → Look) (c : Call) : Effect :=
  let bracket := c.name = "["
  if bracket ∧ c.args.getLast? ≠ some "]" then c.fails "missing ']'" 2
  else
    let (fault, status) := Condition.status ⟨look, true⟩
      (if bracket then c.args.dropLast else c.args)
    match fault with
    | none => c.prints "" status
    | some f => c.fails f.message status

/-- Prints a line again and again. -/
def yes (c : Call) : Effect :=
  let line := (if c.args.isEmpty then "y" else " ".intercalate c.args) ++ "\n"
  { c.prints (String.join (List.replicate (65536 / line.length + 1) line)) 0 with endless := true }

/-- Prints the values of variables of the environment. -/
def printenv (c : Call) : Effect :=
  if c.args.isEmpty then
    c.prints (String.join (c.environment.map fun (n, v) => n ++ "=" ++ v ++ "\n")) 0
  else
    let found := c.args.filterMap fun n => c.environment.lookup n
    c.prints (String.join (found.map (· ++ "\n"))) (if found.length = c.args.length then 0 else 1)

/-- Prints where programs are found. -/
def which (look : String → Look) (c : Call) : Effect :=
  let places := c.args.map fun name =>
    let candidates := if name.contains '/' then [name]
      else Host.programDirs.map fun d => "/" ++ "/".intercalate d ++ "/" ++ name
    candidates.reverse.find? fun p => look p matches .executable _
  c.prints (String.join (places.filterMap fun p => p.map (· ++ "\n")))
    (if places.all Option.isSome ∧ ¬ places.isEmpty then 0 else 1)

/-- Prints the name of the system. -/
def uname (c : Call) : Effect :=
  if c.args.all (· = "-s") then c.prints "Linux\n" 0 else c.prints "Linux x86_64\n" 0

/-- Tells who the user is: the one that may do everything. -/
def id (c : Call) : Effect :=
  match c.args with
  | [] => c.prints "uid=0(root) gid=0(root) groups=0(root)\n" 0
  | ["-u"] | ["-g"] | ["-G"] => c.prints "0\n" 0
  | _ => c.prints "root\n" 0

/-- Prints a format that holds nothing of the date. -/
def date (c : Call) : Effect :=
  match c.args.map String.toList with
  | ['+' :: format] =>
    let rec literal : List Char → List Char
      | '%' :: 'n' :: cs => '\n' :: literal cs
      | '%' :: 't' :: cs => '\t' :: literal cs
      | '%' :: '%' :: cs => '%' :: literal cs
      | c :: cs => c :: literal cs
      | [] => []
    c.prints (String.ofList (literal format) ++ "\n") 0
  | _ => c.prints "" 0

/-- The programs that need nothing but their call. -/
def plain : List (String × (Call → Effect)) :=
  [("arch", fun c => c.prints "x86_64\n" 0), ("awk", awk), ("base64", base64),
   ("basename", basename), ("cat", cat), ("comm", comm), ("cp", copyTo false), ("cut", cut),
   ("date", date), ("dd", dd), ("dirname", dirname), ("echo", echo), ("egrep", grep),
   ("expand", expand), ("expr", expr), ("false", fun c => c.prints "" 1), ("fgrep", grep),
   ("fold", fold), ("grep", grep), ("head", head), ("id", id), ("ls", ls), ("mawk", awk),
   ("mkdir", mkdir), ("mktemp", mktemp),
   ("mv", copyTo true), ("nl", number), ("paste", paste), ("printenv", printenv),
   ("printf", printf), ("pwd", fun c => c.prints ("/" ++ "/".intercalate c.files.here ++ "\n") 0),
   ("realpath", realpath), ("rev", rev), ("rm", rm), ("rmdir", rmdir), ("sed", sed),
   ("seq", seq), ("sleep", sleep), ("sort", sort), ("sync", fun c => c.prints "" 0), ("tac", tac),
   ("tail", tail), ("tee", tee), ("touch", touch), ("tr", tr), ("true", fun c => c.prints "" 0),
   ("tty", fun c => c.prints "not a tty\n" 1), ("uname", uname), ("uniq", uniq), ("wc", wc),
   ("whoami", fun c => c.prints "root\n" 0), ("yes", yes)]

/-- The programs that look at other files. -/
def looking : List (String × ((String → Look) → Call → Effect)) :=
  [("[", test), ("test", test), ("which", which)]

/-- What a program of this name does. -/
def find? (look : String → Look) (name : String) : Option (Call → Effect) :=
  (plain.lookup name).or ((looking.lookup name).map fun f => f look)

/-- The programs that read scripts. -/
def shells : List String := ["bash", "dash", "sh"]

/-- The names of all programs. -/
def names : List String :=
  plain.map Prod.fst ++ looking.map Prod.fst ++ errands.map Prod.fst ++ shells

end SessionWatch.Utility
