/-
# Arguments

The first argument names a subcommand; each subcommand takes positionals,
options with a value and flags. An argument that starts with a hyphen and is
longer than that is an option, up to a lone pair of hyphens, behind which
everything is a positional. A value follows its option, or is attached to it
with an equals sign; no option may be given twice.

Key definitions: `Grammar`, `Grammar.read`, `Action`, `Reading`, `readArguments`.
-/
import SessionWatch.Hooks.Generate
import SessionWatch.Operator.Basic

namespace SessionWatch.Program

/-- What a subcommand takes, each value with the values that are admitted. -/
structure Grammar where
  positionals : List (String → Bool) := []
  options : List (String × (String → Bool)) := []
  flags : List String := []

/-- What was given. -/
structure Given where
  positionals : List String := []
  options : List (String × String) := []
  flags : List String := []
  deriving DecidableEq

/-- What comes of reading arguments. -/
inductive Parsed (α : Type) where
  | ok (value : α)
  /-- A text about the program is asked for. -/
  | help
  | misuse
  deriving DecidableEq

/-- An argument that is an option wherever options are looked for. -/
def isOption (arg : String) : Bool :=
  match arg.toList with
  | '-' :: _ :: _ => true
  | _ => false

/-- The name of a long option, and the value that is attached to it. -/
def longOption? (arg : String) : Option (String × Option String) :=
  match arg.toList with
  | '-' :: '-' :: cs =>
    let name := cs.takeWhile (· ≠ '=')
    some (String.ofList name,
      if cs.contains '=' then some (String.ofList (cs.drop (name.length + 1))) else none)
  | _ => none

namespace Grammar

/-- One more positional, if another one is taken. -/
def addPositional? (g : Grammar) (given : Given) (arg : String) : Option Given :=
  match g.positionals[given.positionals.length]? with
  | none => none
  | some admits =>
    if admits arg then some { given with positionals := given.positionals ++ [arg] } else none

/-- One more option with its value, if it is not there yet. -/
def addOption? (given : Given) (name : String) (admits : String → Bool) (value : String) :
    Option Given :=
  if (given.options.lookup name).isSome ∨ ¬ admits value then none
  else some { given with options := given.options ++ [(name, value)] }

/-- All arguments that follow are positionals. -/
def readPositionals (g : Grammar) (given : Given) : List String → Parsed Given
  | [] => .ok given
  | arg :: rest =>
    match g.addPositional? given arg with
    | none => .misuse
    | some given => readPositionals g given rest

/-- Reads arguments behind those that were given before. -/
def read (g : Grammar) (given : Given) : List String → Parsed Given
  | [] => .ok given
  | arg :: rest =>
    if arg = "--" then g.readPositionals given rest
    else match longOption? arg with
    | some (name, attached) =>
      match g.options.lookup name, attached, rest with
      | some admits, some value, rest =>
        match addOption? given name admits value with
        | none => .misuse
        | some given => g.read given rest
      | some _, none, [] => .misuse
      | some admits, none, value :: rest =>
        if isOption value then .misuse
        else match addOption? given name admits value with
          | none => .misuse
          | some given => g.read given rest
      | none, some _, _ => .misuse
      | none, none, rest =>
        if name = "help" then .help
        else if g.flags.contains name ∧ ¬ given.flags.contains name then
          g.read { given with flags := given.flags ++ [name] } rest
        else .misuse
    | none =>
      if isOption arg then (if arg.toList[1]? = some 'h' then .help else .misuse)
      else match g.addPositional? given arg with
        | none => .misuse
        | some given => g.read given rest

/-- Reads all arguments; every positional has to be there. -/
def readAll (g : Grammar) (args : List String) : Parsed Given :=
  match g.read {} args with
  | .ok given =>
    if given.positionals.length < g.positionals.length then .misuse else .ok given
  | other => other

end Grammar

/-! ## Subcommands -/

/-- What the program is asked to do. -/
inductive Action where
  | hook (call : HookCall) (id : String)
  | operate (a : Operator.Action)
  deriving DecidableEq

def anyText : String → Bool := fun _ => true

/-- A path is not empty. -/
def isPath (value : String) : Bool := value ≠ ""

/-- The agent with a name; only those that have one can be asked for. -/
def agent? (name : String) : Option Agent := Agent.all.find? fun a => a.name = name

def isAgent (name : String) : Bool := (agent? name).isSome

def isState (name : String) : Bool := (State.naming.find? name).isSome

def isMuteKind (name : String) : Bool := (MuteKind.naming.find? name).isSome

/-- What each subcommand takes, and what it makes of it. -/
def subcommands : List (String × Grammar × (Given → Option Action)) :=
  [("_hook-state", { positionals := [anyText, isState] }, fun g =>
      match g.positionals with
      | [id, name] => (State.naming.find? name).map fun s => .hook (.state s) id
      | _ => none),
   ("_hook-stop", { positionals := [anyText] }, fun g => g.positionals.head?.map (.hook .stop)),
   ("_hook-todo", { positionals := [anyText] }, fun g => g.positionals.head?.map (.hook .todo)),
   ("register",
    { options := [("id", anyText), ("label", anyText), ("cwd", isPath), ("agent", isAgent)] },
    fun g => some (.operate (.register
      ⟨g.options.lookup "id", g.options.lookup "label", g.options.lookup "cwd",
        ((g.options.lookup "agent").bind agent?).getD .claude⟩))),
   ("unregister", { positionals := [anyText] }, fun g =>
      g.positionals.head?.map fun id => .operate (.unregister id)),
   ("list", { options := [("state", isState)] }, fun g =>
      some (.operate (.list ((g.options.lookup "state").bind State.naming.find?)))),
   ("hooks",
    { positionals := [anyText]
      options := [("agent", isAgent), ("socket", isPath), ("wrapper", anyText), ("out", isPath)]
      flags := ["unregister-command"] },
    fun g => g.positionals.head?.map fun id => .operate (.hooks
      ⟨id, ((g.options.lookup "agent").bind agent?).getD .claude, g.options.lookup "socket",
        g.options.lookup "wrapper", g.options.lookup "out",
        g.flags.contains "unregister-command"⟩)),
   ("watch", {}, fun _ => some (.operate .watch)),
   ("mute", { positionals := [anyText], options := [("kind", isMuteKind)] }, fun g =>
      g.positionals.head?.map fun id => .operate (.mute id
        (((g.options.lookup "kind").bind MuteKind.naming.find?).getD .session))),
   ("undo-mute", {}, fun _ => some (.operate .undoMute))]

/-- What arguments ask for. -/
inductive Reading where
  | run (subcommand : String) (a : Action)
  | version
  | help
  | misuse
  deriving DecidableEq

/-- A text about a subcommand is asked for. -/
def helpAbout : List String → Reading
  | [] => .help
  | [name] => if name = "help" ∨ (subcommands.lookup name).isSome then .help else .misuse
  | _ => .misuse

/-- Reads the arguments of the program. -/
def readArguments : List String → Reading
  | [] => .misuse
  | arg :: rest =>
    if arg = "--version" then .version
    else if arg = "--help" then .help
    else if isOption arg then
      match arg.toList[1]? with
      | some 'V' => .version
      | some 'h' => .help
      | _ => .misuse
    else if arg = "help" then helpAbout rest
    else match subcommands.lookup arg with
      | none => .misuse
      | some (grammar, action) =>
        match grammar.readAll rest with
        | .help => .help
        | .misuse => .misuse
        | .ok given =>
          match action given with
          | none => .misuse
          | some a => .run arg a

end SessionWatch.Program
