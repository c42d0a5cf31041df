/-
# Programs that run other programs

Some programs have no work of their own: they run another one in another
environment, for a limited time, or once for every part of their input.

Key definitions: `Utility.Errand`, `Utility.errand`, `Utility.Limit`.
-/
import SessionWatch.Process.Basic
import SessionWatch.Process.Host
import SessionWatch.Utility.Number

namespace SessionWatch.Utility

/-- A time after which a program is ended with a signal. -/
structure Limit where
  ms : Nat
  signal : Nat := 15
  /-- What the signal makes of it is told, not that its time was over. -/
  plain : Bool := false
  deriving DecidableEq

/-- What a program wants to be run. -/
inductive Errand where
  | nothing (e : Effect)
  /-- A program, its environment, and perhaps how long it may take. -/
  | one (environment : List (String × String)) (command : List String) (limit : Option Limit)
  /-- Programs that read nothing, one after the other; they are named beforehand on the errors if
  `told`. -/
  | each (commands : List (List String)) (told : Bool)

/-! ## Environments -/

/-- The environment that is left when options and settings are read, and the command behind. -/
def readEnvironment : (fuel : Nat) → List (String × String) → List String →
    Option (List (String × String) × List String)
  | 0, environment, args => some (environment, args)
  | fuel + 1, environment, args =>
    match args with
    | [] => some (environment, [])
    | "-" :: args | "-i" :: args | "--ignore-environment" :: args => readEnvironment fuel [] args
    | "-u" :: name :: args => readEnvironment fuel (environment.filter (·.1 ≠ name)) args
    | "--" :: args => readEnvironment fuel environment args
    | a :: args =>
      let name := String.ofList (a.toList.takeWhile (· ≠ '='))
      if a.startsWith "-u" then
        readEnvironment fuel (environment.filter (·.1 ≠ (a.drop 2).toString)) args
      else if a.startsWith "-" then none
      else if name.length < a.length then
        let value := (a.drop (name.length + 1)).toString
        readEnvironment fuel (environment.filter (·.1 ≠ name) ++ [(name, value)]) args
      else some (environment, a :: args)

/-- Runs a program in a changed environment, or prints that. -/
def env (c : Call) : Errand :=
  match readEnvironment (c.args.length + 1) c.environment c.args with
  | none => .nothing (c.refuses "invalid option" 125)
  | some (environment, []) =>
    .nothing (c.prints (String.join (environment.map fun (n, v) => n ++ "=" ++ v ++ "\n")) 0)
  | some (environment, command) => .one environment command none

/-! ## Limits -/

/-- Runs a program for a limited time. -/
def timeout (c : Call) : Errand :=
  let known : Known :=
    { flags := "fvp", valued := "sk"
      long := [("signal", 's'), ("kill-after", 'k'), ("foreground", 'f'), ("verbose", 'v'),
        ("preserve-status", 'p')] }
  match c.options known false with
  | .error why => .nothing (c.misused why 125)
  | .ok o =>
    let signal := (o.value? 's').map fun text =>
      let name := text.map Char.toUpper
      (number? name).or (Signal.ofName? (if name.startsWith "SIG" then (name.drop 3).toString else name))
    match o.operands, signal with
    | _, some none => .nothing (c.fails "invalid signal" 125)
    | time :: command, signal =>
      match milliseconds? time, command with
      | none, _ => .nothing (c.fails ("invalid time interval '" ++ time ++ "'") 125)
      | some _, [] => .nothing (c.refuses "missing operand" 125)
      | some ms, command =>
        let limit : Limit := { ms := ms, signal := (signal.getD none).getD 15, plain := o.has 'p' }
        .one c.environment command (if ms = 0 then none else some limit)
    | [], _ => .nothing (c.refuses "missing operand" 125)

/-! ## Programs without a change that matters here -/

/-- Runs the program behind the options. -/
def runs (known : Known) (status : Nat) (c : Call) : Errand :=
  match c.options known false with
  | .error why => .nothing (c.misused why status)
  | .ok o =>
    if o.operands.isEmpty then .nothing (c.refuses "missing operand" status)
    else .one c.environment o.operands none

/-- Runs a program with less right to the processor, or prints how much less that is. -/
def nice (c : Call) : Errand :=
  if c.args.isEmpty then .nothing (c.prints "0\n" 0)
  else
    let args := match c.args with
      | a :: args => if (integer? a).any (· < 0) ∧ a.startsWith "-" then args else a :: args
      | [] => []
    runs { valued := "n", long := [("adjustment", 'n')] } 125 { c with args := args }

/-! ## Arguments from an input -/

/-- The items of an input, which blanks separate. -/
def items : (acc : List String) → (word : Option (List Char)) → List Char → List String
  | acc, word, [] => ((word.map fun w => String.ofList w.reverse).toList ++ acc).reverse
  | acc, word, '\\' :: c :: cs => items acc (some (c :: word.getD [])) cs
  | acc, word, c :: cs =>
    if c = ' ' ∨ c = '\t' ∨ c = '\n' then
      items ((word.map fun w => String.ofList w.reverse).toList ++ acc) none cs
    else if c = '\'' ∨ c = '"' then
      let inside := cs.takeWhile fun d => d ≠ c && d ≠ '\n'
      items acc (some (inside.reverse ++ word.getD [])) (cs.drop (inside.length + 1))
    else items acc (some (c :: word.getD [])) cs
termination_by _ _ cs => cs.length
decreasing_by
  all_goals
    simp only [List.length_cons, List.length_drop]
    omega

/-- A list cut into pieces of `n`. -/
def chunks (n : Nat) : (fuel : Nat) → List String → List (List String)
  | 0, _ | _, [] => []
  | fuel + 1, xs => xs.take n :: chunks n fuel (xs.drop n)

/-- How many bytes a command line of arguments may have. -/
def commandRoom : Nat := 131072

/-- The bytes that arguments take on a command line, each with an end. -/
def commandSize (args : List String) : Nat :=
  args.foldl (fun size a => size + (a.utf8ByteSize + 1)) 0

/-- A list cut where the arguments fill a command line. -/
def fitting (room : Nat) (args : List String) : List (List String) :=
  let (group, _, groups) := args.foldl
    (fun (acc : List String × Nat × List (List String)) a =>
      let (group, size, groups) := acc
      let more := a.utf8ByteSize + 1
      if size + more ≤ room then (a :: group, size + more, groups)
      else ([a], more, group.reverse :: groups))
    ([], 0, [])
  (group.reverse :: groups).reverse

/-- A text with another one in the place of every part that is `part`. -/
def substituted (part text : String) (s : String) : String :=
  if part = "" then s else text.intercalate (s.splitOn part)

/-- Runs a program on the items of the input. -/
def xargs (c : Call) : Errand :=
  let known : Known :=
    { flags := "0rtxp", valued := "nLIdPs"
      long := [("null", '0'), ("no-run-if-empty", 'r'), ("verbose", 't'), ("max-args", 'n'),
        ("max-lines", 'L'), ("replace", 'I'), ("delimiter", 'd'), ("max-procs", 'P')] }
  match c.options known false with
  | .error why => .nothing (c.misused why 1)
  | .ok o =>
    let base := if o.operands.isEmpty then ["echo"] else o.operands
    let separated := fun (separator : Char) =>
      let parts := (split separator c.input).map String.ofList
      if parts.getLast? = some "" then parts.dropLast else parts
    let own := fun (lines : Bool) =>
      if o.has '0' then separated '\x00'
      else match (o.value? 'd').map String.toList with
        | some ['\\', 'n'] => separated '\n'
        | some ['\\', 't'] => separated '\t'
        | some (d :: _) => separated d
        | _ => if lines then
            ((separated '\n').map fun l => (l.dropWhile fun ch => ch = ' ' || ch = '\t').toString).filter
              (· ≠ "")
          else items [] none c.input
    let number := fun (letter : Char) => (o.value? letter).bind number?
    match o.value? 'I' with
    | some mark =>
      .each ((own true).map fun item => base.map (substituted mark item)) (o.has 't')
    | none =>
      let groups : List (List String) :=
        match number 'L', number 'n' with
        | some n, _ => (chunks n (c.input.length + 1) (own true)).map fun lines =>
            lines.flatMap fun l => items [] none l.toList
        | none, some n => chunks n (c.input.length + 1) (own false)
        | none, none => if (own false).isEmpty then [] else [own false]
      let groups := if groups.isEmpty ∧ ¬ o.has 'r' then [[]] else groups
      let room := commandRoom - commandSize base
      if groups.any fun g => g.any fun a => room < a.utf8ByteSize + 1 then
        .nothing { c.fails "argument line too long" 1 with rest := none }
      else .each ((groups.flatMap (fitting room)).map (base ++ ·)) (o.has 't')

/-- The status of a program whose programs had these ends. -/
def statusOf (ends : List Exit) : Nat :=
  ends.foldl
    (fun status e =>
      match e with
      | .code 0 => status
      | .code n => if n = 126 ∨ n = 127 then n else if n = 255 then 124 else 123
      | .signal _ => 125)
    0

/-! ## All of them -/

def errands : List (String × (Call → Errand)) :=
  [("env", env), ("nice", nice), ("nohup", runs {} 125),
   ("setsid", runs { flags := "cfw", long := [("wait", 'w'), ("fork", 'f'), ("ctty", 'c')] } 1),
   ("stdbuf", runs { valued := "ioe" } 125), ("timeout", timeout), ("xargs", xargs)]

/-- What a program wants to be run; none if it does not run others. -/
def errand? (c : Call) : Option Errand := (errands.lookup c.name).map fun f => f c

/-- What is said about a program that does not start. -/
def notStarted (name program : String) (why : StartFault) : String :=
  let reason := match why with
    | .missing | .nulByte => "No such file or directory"
    | .tooMuch => "Argument list too long"
    | .denied => "Permission denied"
    | .notDirectory => "Not a directory"
    | .nameTooLong => "File name too long"
  let what := if name = "timeout" ∨ name = "nohup" ∨ name = "stdbuf" then
      "failed to run command '" ++ program ++ "'"
    else if name = "setsid" then "failed to execute " ++ program
    else if name = "xargs" then program
    else "'" ++ program ++ "'"
  name ++ ": " ++ what ++ ": " ++ reason ++ "\n"

/-- The status of a program that should have run one that does not start. -/
def statusNotStarted : StartFault → Nat
  | .missing => 127
  | _ => 126

end SessionWatch.Utility
