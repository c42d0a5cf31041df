/-
# The hooks of a session

Each event of an agent's life calls back into the wrapper program with the id
of the session and, for most events, with the state that the session is in
from then on. The socket goes along in the environment. A session that has to
be taken off without the wrapper gets a line of its own for that.

Key definitions: `HookCall`, `HookSettings.forSession`, `unregisterLine`.
-/
import SessionWatch.Hooks.Settings
import SessionWatch.Shell.Quote
import SessionWatch.Text.Blank
import SessionWatch.Wire.Command

namespace SessionWatch

/-- The variable that names the socket. -/
def socketVariable : String := "ATTN_SOCKET_PATH"

/-- The wrapper that is called if none is named. -/
def defaultWrapper : String := "attn"

/-- The seconds that an agent waits for the end-of-turn hook, longer than any classification. -/
def stopHookSeconds : Nat := 60

/-- What a hook reports. -/
inductive HookCall where
  | state (s : State)
  | stop
  | todo
  deriving DecidableEq

/-- The words of a call behind the wrapper: a subcommand, the session, and perhaps a state. -/
def HookCall.words (id : String) : HookCall → String × String × Option String
  | .state s => ("_hook-state", id, some s.name)
  | .stop => ("_hook-stop", id, none)
  | .todo => ("_hook-todo", id, none)

/-- The wrapper that is called for a name; a blank name stands for the default. -/
def wrapperName (wrapper : String) : String :=
  let name := Text.trim wrapper
  if name = "" then defaultWrapper else name

/-- The shell line of a call. -/
def HookCall.line (id socket wrapper : String) (call : HookCall) : String :=
  let (subcommand, id, argument) := call.words id
  socketVariable ++ "=" ++ Shell.quote (Text.trim socket)
    ++ " " ++ Shell.quote (wrapperName wrapper) ++ " " ++ subcommand ++ " " ++ Shell.quote id
    ++ argument.elim "" (" " ++ ·)

/-- The calls of each event, with the tools that they are about, in the order of the events. -/
def hookTable : List (String × List (String × HookCall)) :=
  [("PermissionRequest", [("*", .state .pendingApproval)]),
   ("PostToolUse",
     [("TodoWrite", .todo), ("AskUserQuestion", .state .working), ("*", .state .working)]),
   ("PreToolUse", [("AskUserQuestion", .state .waitingInput)]),
   ("Stop", [("*", .stop)]),
   ("UserPromptSubmit", [("*", .state .working)])]

/-- The command of a call; only the end of a turn has a time limit of its own. -/
def HookCall.command (id socket wrapper : String) (call : HookCall) : HookCommand :=
  ⟨"command", call.line id socket wrapper, if call = .stop then some stopHookSeconds else none⟩

/-- The settings of a session. -/
def HookSettings.forSession (id socket wrapper : String) : HookSettings :=
  ⟨hookTable.map fun (event, calls) =>
    (event, calls.map fun (matcher, call) => ⟨matcher, [call.command id socket wrapper]⟩)⟩

/-- A shell line that takes a session off by writing straight to the socket. -/
def unregisterLine (id socket : String) : String :=
  "echo " ++ Shell.quote (Command.unregister id).line ++ " | nc -U " ++ Shell.quote socket

end SessionWatch
