/-
# Commands of the shell itself

These commands change the shell, or are so common that it has them itself. A
mistake in the use of a special one ends the shell.

Key definitions: `Shell.Builtin.specials`, `Shell.Builtin.find?`,
`Shell.Builtin.setOptions?`.
-/
import SessionWatch.Shell.Field
import SessionWatch.Shell.State
import SessionWatch.Utility.Catalog

namespace SessionWatch.Shell.Builtin

/-- Commands whose mistakes end the shell, and whose assignments stay. -/
def specials : List String :=
  [".", ":", "break", "continue", "eval", "exec", "exit", "export", "local", "readonly", "return",
   "set", "shift", "times", "trap", "unset"]

/-- Words that begin or end compound commands. -/
def keywords : List String :=
  ["!", "case", "do", "done", "elif", "else", "esac", "fi", "for", "if", "in", "then", "until",
   "while", "\x7b", "\x7d"]

def done (s : State) (status : Nat) : State := { s with status := status }

/-- A mistake in the use of a command. -/
def mistake (s : State) (name text : String) : State :=
  let s := s.complain text
  if specials.contains name then s.exit 2 else done s 2

/-- Prints to the output. -/
def say (s : State) (name text : String) (status : Nat) : State :=
  match s.write 1 text with
  | some s => done s status
  | none => done (s.complain (name ++ ": I/O error")) 1

/-! ## Options -/

/-- The names of the options by their letters, the last one being told first. -/
def optionNames : List (String × Char) :=
  [("errexit", 'e'), ("noglob", 'f'), ("ignoreeof", 'I'), ("interactive", 'i'), ("monitor", 'm'),
   ("noexec", 'n'), ("stdin", 's'), ("xtrace", 'x'), ("verbose", 'v'), ("vi", 'V'),
   ("emacs", 'E'), ("noclobber", 'C'), ("allexport", 'a'), ("notify", 'b'), ("nounset", 'u'),
   ("privileged", 'p')]

def turn (on : Bool) (options : List Char) (c : Char) : List Char :=
  (optionNames.reverse.map Prod.snd).filter fun d => if d = c then on else options.contains d

/-- Reads options in front of arguments: the options then, the arguments left, and whether these
were meant even if there are none. What is no option is given instead. -/
def setOptions? : (fuel : Nat) → List Char → List String →
    Except String (List Char × List String × Bool)
  | 0, options, args => .ok (options, args, false)
  | fuel + 1, options, args =>
    match args with
    | [] => .ok (options, [], false)
    | "--" :: rest => .ok (options, rest, true)
    | a :: rest =>
      match a.toList with
      | ['-'] => .ok (options.filter fun c => c ≠ 'x' && c ≠ 'v', rest, !rest.isEmpty)
      | sign :: c :: cs =>
        if sign ≠ '-' ∧ sign ≠ '+' then .ok (options, a :: rest, true)
        else
          let on := sign = '-'
          let letters := c :: cs
          let known := fun c => optionNames.any fun p => p.2 = c
          match (letters.filter (· ≠ 'o')).find? fun c => !known c with
          | some bad => .error (String.ofList [sign, bad])
          | none =>
            let options := (letters.filter (· ≠ 'o')).foldl (turn on) options
            if letters.contains 'o' then
              match rest with
              | [] => .ok (options, [], false)
              | name :: rest =>
                match optionNames.lookup name with
                | some c => setOptions? fuel (turn on options c) rest
                | none => .error (String.ofList [sign, 'o', ' '] ++ name)
            else setOptions? fuel options rest
      | _ => .ok (options, a :: rest, true)

def set (s : State) (args : List String) : State :=
  match setOptions? (args.length + 1) s.options args with
  | .error what => mistake s "set" ("Illegal option " ++ what)
  | .ok (options, rest, meant) =>
    let s := { s with options := options, status := 0 }
    if meant then { s with arguments := rest, optionIndex := 1, optionPlace := 0 } else s

/-! ## Variables -/

/-- A name, and the value that is given with it. -/
def nameAndValue (a : String) : String × Option String :=
  let name := String.ofList (a.toList.takeWhile (· ≠ '='))
  (name, if name.length < a.length then some (a.drop (name.length + 1)).toString else none)

/-- Marks variables, and sets those that are given with a value. -/
def mark (command : String) (f : Variable → Variable) (s : State) (args : List String) : State :=
  (args.filter (· ≠ "--")).foldl
    (fun s a =>
      if ¬ s.isOn ∨ a = "-p" then s
      else
        let (name, value) := nameAndValue a
        if ¬ Script.isName name then mistake s command (name ++ ": bad variable name")
        else
          let s := match value with
            | some v => s.set name v
            | none => s
          if s.isOn then s.put (f ((s.lookup? name).getD { name := name, value := none }))
          else s)
    (done s 0)

/-- Makes variables that end with the function. -/
def locals (s : State) (args : List String) : State :=
  match s.locals with
  | [] => mistake s "local" "not in a function"
  | _ =>
    args.foldl
      (fun s a =>
        if ¬ s.isOn then s
        else
          let (name, value) := nameAndValue a
          if ¬ Script.isName name then mistake s "local" (name ++ ": bad variable name")
          else
            let s := match s.locals with
              | saved :: outer =>
                if saved.any (·.1 = name) then s
                else { s with locals := ((name, s.lookup? name) :: saved) :: outer }
              | [] => s
            match value with
            | some v => s.set name v
            | none => s)
      (done s 0)

def unset (s : State) (args : List String) : State :=
  let functions := args.head? = some "-f"
  let names := args.filter fun a => a ≠ "-f" && a ≠ "-v" && a ≠ "--"
  names.foldl
    (fun s name =>
      if ¬ s.isOn then s
      else if functions then { s with functions := s.functions.filter (·.1 ≠ name) }
      else if ¬ Script.isName name then mistake s "unset" (name ++ ": bad variable name")
      else if ((s.lookup? name).map Variable.fixed).getD false then
        mistake s "unset" (name ++ ": is read only")
      else { s with vars := s.vars.filter (·.name ≠ name) })
    (done s 0)

def shift (s : State) (args : List String) : State :=
  match args with
  | [] =>
    if s.arguments.isEmpty then mistake s "shift" "can't shift that many"
    else { s with arguments := s.arguments.drop 1, status := 0 }
  | a :: _ =>
    match Utility.number? a with
    | none => mistake s "shift" ("Illegal number: " ++ a)
    | some n =>
      if s.arguments.length < n then mistake s "shift" "can't shift that many"
      else { s with arguments := s.arguments.drop n, status := 0 }

/-! ## Reading -/

/-- The first line of an input, escapes replaced unless it is `raw`, each character with whether
it may separate fields, and how many characters the line has, which is none if it has no end. -/
def firstLine (raw : Bool) : (acc : List Cell) → (n : Nat) → List Char → List Cell × Option Nat
  | acc, _, [] => (acc.reverse, none)
  | acc, n, '\n' :: _ => (acc.reverse, some (n + 1))
  | acc, n, '\\' :: c :: cs =>
    if raw then firstLine raw (.char '\\' false true :: acc) (n + 1) (c :: cs)
    else if c = '\n' then firstLine raw acc (n + 2) cs
    else firstLine raw (.char c true false :: acc) (n + 2) cs
  | acc, n, c :: cs => firstLine raw (.char c false true :: acc) (n + 1) cs
termination_by _ _ cs => cs.length

/-- Drops separators in front that are blanks. -/
def dropBlank (separators : List Char) (cells : List Cell) : List Cell :=
  cells.dropWhile fun
    | .char c _ splits => splits && separators.contains c && (c = ' ' || c = '\t')
    | _ => false

def separates (separators : List Char) : Cell → Bool
  | .char c _ splits => splits && separators.contains c
  | _ => false

/-- The last of some names takes all that is left, without blanks at its end, and without a
separator that ends it and nothing else. -/
def lastField (separators : List Char) (cells : List Cell) : String :=
  let trimmed := (dropBlank separators cells.reverse).reverse
  let inside := trimmed.takeWhile fun c => !separates separators c
  Cell.text (if inside.length + 1 = trimmed.length then inside else trimmed)

/-- Gives the fields of a line to names, one after the other. -/
def share (separators : List Char) : (fuel : Nat) → List String → List Cell →
    List (String × String)
  | 0, _, _ | _, [], _ => []
  | _, [name], cells => [(name, lastField separators (dropBlank separators cells))]
  | fuel + 1, name :: names, cells =>
    let cells := dropBlank separators cells
    let field := cells.takeWhile fun c => !separates separators c
    let rest := cells.drop field.length
    let rest := match rest with
      | .char c q s :: more =>
        if c = ' ' ∨ c = '\t' then
          match dropBlank separators (.char c q s :: more) with
          | .char d _ true :: after => if separators.contains d then after else .char d false true :: after
          | after => after
        else more
      | rest => rest
    (name, Cell.text field) :: share separators fuel names rest

def read (s : State) (args : List String) : State :=
  let raw := args.any fun a => a.startsWith "-" && a.contains 'r'
  let rec names : List String → List String
    | "-p" :: _ :: rest => names rest
    | a :: rest => if a.startsWith "-" then names rest else a :: rest
    | [] => []
  match names args with
  | [] => mistake s "read" "arg count"
  | names =>
    let (line, length?) := firstLine raw [] 0 (s.readable 0)
    let s := match length? with
      | some n => s.take 0 n 1
      | none => s.drain 0
    let values := share s.separators.toList (names.length + 1) names line
    let s := done s (if length?.isSome then 0 else 1)
    values.foldl (fun s p => if s.isOn then s.set p.1 p.2 else s) s

/-! ## Places and names -/

def cd (s : State) (args : List String) : State :=
  let args := args.filter fun a => a ≠ "-P" && a ≠ "-L" && a ≠ "--"
  let target := match args with
    | [] => (s.value? "HOME").getD ""
    | "-" :: _ => (s.value? "OLDPWD").getD ""
    | a :: _ => a
  if target = "" then done s 0
  else match s.files.lookup target with
    | .ok (p, .dir) =>
      let before := "/" ++ "/".intercalate s.directory
      let now := "/" ++ "/".intercalate p
      let s := (s.set "OLDPWD" before).set "PWD" now
      let s := { s with directory := p, status := 0 }
      if args.head? = some "-" then say s "cd" (now ++ "\n") 0 else s
    | _ => mistake s "cd" ("can't cd to " ++ target)

/-- Where the program of a name is. -/
def place? (s : State) (name : String) : Option String :=
  let here := fun (path : String) => match s.look path with
    | .executable _ => some path
    | _ => none
  if name.contains '/' then here name
  else (s.searchDirs.filter (· ≠ "")).findSome? fun d => here (d ++ "/" ++ name)

/-! ## Waiting and signals -/

/-- The job that a text names. -/
def job? (s : State) (text : String) : Option Nat :=
  match text.toList with
  | '%' :: _ => s.started.head?
  | _ => s.started.find? fun id => State.idText id = text

def wait (s : State) (args : List String) : State :=
  let ids := args.filter (· ≠ "--")
  if ids.isEmpty then
    let jobs := s.world.jobs.filter fun j => s.started.contains j.id
    done (s.advance ((jobs.map Job.finish).foldl max s.now)) 0
  else
    ids.foldl
      (fun s text =>
        match (job? s text).bind fun id => s.world.jobs.find? (·.id = id) with
        | none => done s 127
        | some j =>
          let news := s.now ≤ j.finish
          let s := done (s.advance j.finish) j.exit.status
          match j.exit with
          | .code _ => s
          | .signal n => if news ∧ n ≠ 2 ∧ n ≠ 13 then s.print 2 (Signal.describe n ++ "\n") else s)
      s

/-- The signal of a number or a name. -/
def signal? (text : String) : Option Nat :=
  match Utility.number? text with
  | some n => if n ≤ 64 then some n else none
  | none =>
    let name := text.map Char.toUpper
    if name.startsWith "RTMIN+" then
      (Utility.number? (name.drop 6).toString).map (34 + ·)
    else if name.startsWith "RTMAX-" then
      (Utility.number? (name.drop 6).toString).map (64 - ·)
    else (Signal.ofName? name).filter (· ≠ 16)

/-- What a signal does to the shell itself, unless it has its own way with it. -/
def struck (s : State) (signal : Nat) : State :=
  if signal = 0 ∨ Signal.harmless.contains signal then done s 0
  else if s.inner then
    { done s 0 with world := { s.world with
      dooms := s.world.dooms ++ [⟨s.shell, s.now, signal⟩] } }
  else if Signal.stopping.contains signal then s.giveUp
  else { s with flow := .exits (.signal signal) }

/-- Sends a signal to jobs; the shell itself is left out, and whether it was meant is the second
part. -/
def send (s : State) (signal : Nat) (targets : List String) : State × Bool :=
  targets.foldl
    (fun acc text =>
      let (s, own) := acc
      if text = State.idText s.shell ∨ text = "0" then (s, true)
      else match job? s text with
        | some id =>
          let ends := signal ≠ 0 && !Signal.harmless.contains signal
          (if ends then { s with world := State.cutJob s.world id s.now (.signal signal) } else s,
            own)
        | none =>
          match s.above.find? fun id => State.idText id = text with
          | some id =>
            if signal = 0 ∨ Signal.harmless.contains signal then (s, own)
            else
              let dooms := s.world.dooms ++ [⟨id, s.now, signal⟩]
              ({ s with world := { s.world with dooms := dooms } }, own)
          | none =>
            if text.startsWith "%" ∨ (Utility.integer? text).isSome then
              (done (s.complain "No such process\n") 1, own)
            else (done (s.complain ("Illegal number: " ++ text)) 2, own))
    (done s 0, false)

/-- What kill is told: a text to print, or a signal and whom it is for. -/
inductive Killing where
  | tells (text : String)
  | sends (signal : Nat) (targets : List String)
  | wrong (text : String) (status : Nat)

def usage : String :=
  "Usage: kill [-s sigspec | -signum | -sigspec] [pid | job]... or\nkill -l [exitstatus]"

/-- The name that is printed for a signal; those without one have a number. -/
def signalText (n : Nat) : Option String :=
  if n = 0 ∨ n = 16 ∨ n = 32 ∨ n = 33 then some (toString n)
  else (Signal.name? n).or (if n = 34 then some "RTMIN"
    else if n = 64 then some "RTMAX"
    else if 34 < n ∧ n < 50 then some ("RTMIN+" ++ toString (n - 34))
    else if 50 ≤ n ∧ n < 64 then some ("RTMAX-" ++ toString (64 - n)) else none)

def readKill (args : List String) : Killing :=
  match args with
  | [] => .wrong usage 2
  | "-l" :: [] =>
    .tells (String.join ((List.range 65).filterMap fun n => (signalText n).map (· ++ "\n")))
  | "-l" :: a :: _ =>
    match Utility.number? a with
    | none => .wrong ("Illegal number: " ++ a) 2
    | some n =>
      let n := if 128 < n then n - 128 else n
      match signalText n with
      | some name => .tells (name ++ "\n")
      | none => .wrong ("invalid signal number or exit status: " ++ a) 2
  | ["-s"] => .wrong "No arg for -s option" 2
  | "-s" :: name :: targets =>
    match signal? name with
    | some n => if targets.isEmpty then .wrong usage 2 else .sends n (targets.filter (· ≠ "--"))
    | none => .wrong ("invalid signal number or name: " ++ name) 2
  | a :: targets =>
    match a.toList with
    | ['-', '-'] => if targets.isEmpty then .wrong usage 2 else .sends 15 targets
    | '-' :: c :: cs =>
      match signal? (String.ofList (c :: cs)) with
      | some n => if targets.isEmpty then .wrong usage 2 else .sends n (targets.filter (· ≠ "--"))
      | none => .wrong ("Illegal option -" ++ String.singleton c) 2
    | _ => .sends 15 args

/-- Sets what is done about signals. -/
def trap (s : State) (args : List String) : State :=
  let args := if args.head? = some "--" then args.drop 1 else args
  match args with
  | [] =>
    say s "trap" (String.join (s.traps.map fun (n, action) =>
      "trap -- '" ++ action ++ "' " ++ (if n = 0 then "EXIT" else (signalText n).getD "") ++ "\n")) 0
  | action :: names =>
    let (action, names) : Option String × List String :=
      if names.isEmpty ∨ (Utility.number? action).isSome then (none, action :: names)
      else if action = "-" then (none, names) else (some action, names)
    names.foldl
      (fun s name =>
        if ¬ s.isOn then s
        else match signal? name with
          | none => mistake s "trap" (name ++ ": bad trap")
          | some n =>
            let others := s.traps.filter (·.1 ≠ n)
            { s with traps := match action with
              | some a => others ++ [(n, a)]
              | none => others })
      (done s 0)

/-! ## Options of scripts -/

/-- Reads the next option of some arguments into a variable. -/
def getopts (s : State) (args : List String) : State :=
  match args with
  | known :: name :: own =>
    let words := if own.isEmpty then s.arguments else own
    let index := s.optionIndex
    let silent := known.startsWith ":"
    let here := words[index - 1]?
    let finish := fun (s : State) (index place : Nat) (value : String) (arg : Option String)
        (status : Nat) =>
      let s := match arg with
        | some a => s.set "OPTARG" a
        | none => { s with vars := s.vars.filter (·.name ≠ "OPTARG") }
      let s := (s.set name value).set "OPTIND" (toString index)
      { s with optionPlace := place, status := status }
    match here.map String.toList with
    | some ('-' :: c :: cs) =>
      if c :: cs = ['-'] then finish s (index + 1) 0 "?" none 1
      else
        let letters := c :: cs
        let place := if s.optionPlace < letters.length then s.optionPlace else 0
        let letter := (letters[place]?).getD '?'
        let more := letters.drop (place + 1)
        let after : Nat × Nat := if more.isEmpty then (index + 1, 0) else (index, place + 1)
        let spec := (known.toList.dropWhile (· ≠ letter))
        if letter = ':' ∨ spec.isEmpty then
          let s := if silent then s
            else s.complain ("Illegal option -" ++ String.singleton letter)
          finish s after.1 after.2 "?"
            (if silent then some (String.singleton letter) else none) 0
        else if spec[1]? = some ':' then
          if ¬ more.isEmpty then
            finish s (index + 1) 0 (String.singleton letter) (some (String.ofList more)) 0
          else match words[index]? with
            | some v => finish s (index + 2) 0 (String.singleton letter) (some v) 0
            | none =>
              let s := if silent then s
                else s.complain ("No arg for -" ++ String.singleton letter ++ " option")
              finish s (index + 1) 0 (if silent then ":" else "?")
                (if silent then some (String.singleton letter) else none) 0
        else finish s after.1 after.2 (String.singleton letter) none 0
    | _ => finish s index 0 "?" none 1
  | _ => mistake s "getopts" "Usage: getopts optstring var [arg...]"

/-! ## Printing and testing -/

/-- How a shell reads a format. -/
def style : Utility.Printf.Style where
  format := {}
  argument := { zero := true, stop := true }

def printf (s : State) (args : List String) : State :=
  let args := if args.head? = some "--" then args.drop 1 else args
  match args with
  | [] => mistake s "printf" "usage: printf format [arg ...]"
  | format :: args =>
    match format.toList with
    | '-' :: c :: _ => mistake s "printf" ("Illegal option -" ++ String.singleton c)
    | _ =>
      let (text, flaws, known) := Utility.Printf.print style format args
      let s := flaws.foldl
        (fun s p => s.complain (p.1 ++ ": " ++ (match p.2 with
          | .partly => "not completely converted"
          | .noNumber => "expected numeric value"
          | .tooLarge => "Numerical result out of range")))
        s
      let s := say s "printf" text (if flaws.isEmpty then 0 else 1)
      if known then s else mistake s "printf" "invalid directive"

def echo (s : State) (args : List String) : State :=
  match s.echo with
  | .escapes => say s "echo" (s.echo.printArgs args) 0
  | .verbatim =>
    let call : Utility.Call := ⟨"echo", args, [], s.files, []⟩
    say s "echo" (Utility.echo call).output 0

def test (bracket : Bool) (s : State) (args : List String) : State :=
  let name := if bracket then "[" else "test"
  if bracket ∧ args.getLast? ≠ some "]" then mistake s name "missing ]"
  else
    let c : Utility.Condition := ⟨s.look, s.echo = .verbatim⟩
    let (fault, status) := c.status (if bracket then args.dropLast else args)
    match fault with
    | none => done s status
    | some f => mistake s name f.message

/-! ## All of them -/

/-- The commands that need nothing but the shell and their arguments. -/
def table : List (String × (State → List String → State)) :=
  [(":", fun s _ => done s 0), ("true", fun s _ => done s 0), ("false", fun s _ => done s 1),
   ("[", test true), ("alias", fun s _ => done s 0), ("bg", fun s _ => done s 0),
   ("cd", cd), ("chdir", cd), ("echo", echo),
   ("export", mark "export" fun v => { v with exported := true }),
   ("fg", fun s _ => done s 0), ("getopts", getopts), ("hash", fun s _ => done s 0),
   ("jobs", fun s _ => done s 0), ("local", locals), ("printf", printf),
   ("pwd", fun s _ => say s "pwd" ("/" ++ "/".intercalate s.directory ++ "\n") 0),
   ("read", read), ("readonly", mark "readonly" fun v => { v with fixed := true }), ("set", set),
   ("shift", shift), ("test", test false),
   ("times", fun s _ => say s "times" "0m0.000000s 0m0.000000s\n0m0.000000s 0m0.000000s\n" 0),
   ("trap", trap),
   ("ulimit", fun s _ => say s "ulimit" "unlimited\n" 0),
   ("umask", fun s args => if args.isEmpty then say s "umask" "0022\n" 0 else done s 0),
   ("unalias", fun s _ => done s 0), ("unset", unset), ("wait", wait)]

/-- The commands that carry out others. -/
def running : List String :=
  [".", "break", "command", "continue", "eval", "exec", "exit", "kill", "return", "type"]

/-- What a command of the shell does. -/
def find? (name : String) : Option (State → List String → State) := table.lookup name

/-- Whether the shell has a command of this name itself. -/
def isKnown (name : String) : Bool := (find? name).isSome || running.contains name

/-- What a shell says about a name: its own way, and the short one. -/
def describe (s : State) (short : Bool) (name : String) : Option String :=
  if keywords.contains name then some (if short then name else name ++ " is a shell keyword")
  else if s.functions.any (·.1 = name) then
    some (if short then name else name ++ " is a shell function")
  else if isKnown name then
    some (if short then name
      else name ++ (if specials.contains name then " is a special shell builtin"
        else " is a shell builtin"))
  else (place? s name).map fun path => if short then path else name ++ " is " ++ path

end SessionWatch.Shell.Builtin
