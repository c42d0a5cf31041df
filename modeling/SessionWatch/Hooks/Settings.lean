/-
# Hook settings

A settings file tells an agent program which commands to run at which event of
its life. Each event has entries, each entry a matcher for the tools that it
is about and the commands to run.

Key definitions: `HookCommand`, `HookEntry`, `HookSettings`,
`HookSettings.text`.
-/
import SessionWatch.Json.Printer
import SessionWatch.Schema.FromText
import SessionWatch.Schema.Write
import SessionWatch.Session.Basic

namespace SessionWatch

/-- A command to run, and the seconds it may take if that is not left open. -/
structure HookCommand where
  kind : String
  command : String
  timeout : Option Nat
  deriving DecidableEq

/-- The commands for the tools that a matcher admits. -/
structure HookEntry where
  matcher : String
  hooks : List HookCommand
  deriving DecidableEq

/-- The entries of each event, in the order of the events' names. -/
structure HookSettings where
  hooks : List (String × List HookEntry)
  deriving DecidableEq

def HookCommand.shape : Shape HookCommand :=
  (Shape.record "struct InnerHook"
    (.plain "type" textShape (.plain "command" textShape
    (.cons "timeout" [] (.optional (.count (Nat.pow 2 32) "u32")) (.implied none) Option.isNone
    .nil)))).via
    (fun (kind, command, timeout, ()) => ⟨kind, command, timeout⟩)
    (fun h => (h.kind, h.command, h.timeout, ()))

def HookEntry.shape : Shape HookEntry :=
  (Shape.record "struct HookConfig"
    (.plain "matcher" textShape (.plain "hooks" (.list HookCommand.shape) .nil))).via
    (fun (matcher, hooks, ()) => ⟨matcher, hooks⟩) (fun e => (e.matcher, e.hooks, ()))

namespace HookSettings

def shape : Shape HookSettings :=
  (Shape.record "struct HookSettings"
    (.plain "hooks" (.dict (.list HookEntry.shape)) .nil)).via
    (fun (hooks, ()) => ⟨hooks⟩) (fun s => (s.hooks, ()))

/-- The text of a settings file, without its last line feed. -/
def text (s : HookSettings) : String := (shape.toJson s).pretty

def decode (text : Bytes) : Except Json.Refusal HookSettings := shape.decode text

end HookSettings

end SessionWatch
