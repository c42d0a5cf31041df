/-
# What a hook reports

A hook that an agent runs sends one command to the daemon. For the end of a
turn and for the todos it looks at its input first, of which only so much is
read; a turn that goes on because of an earlier hook is not reported.

Key definitions: `StopInput`, `HookCall.command?`, `HookCall.deliver`,
`HookCall.Fault`.
-/
import SessionWatch.Client.Basic
import SessionWatch.Hooks.Generate
import SessionWatch.Session.Todo

namespace SessionWatch

/-- The most bytes that a hook reads of its input. -/
def maxHookInputBytes : Nat := 1048576

/-- What matters in the input of the hook at the end of a turn. -/
structure StopInput where
  transcriptPath : Option String := none
  /-- The turn goes on because of an earlier hook. -/
  active : Bool := false
  deriving DecidableEq

def StopInput.shape : Shape StopInput :=
  (Shape.record "struct StopHookInput"
    (.maybe "transcript_path" textShape (.orElse "stop_hook_active" .flag false .nil))).via
    (fun (path, active, ()) => ⟨path, active⟩) (fun i => (i.transcriptPath, i.active, ()))

namespace HookCall

/-- Why a hook has not reported. -/
inductive Fault where
  | inputNotText
  | inputNotJson (why : Json.Refusal)
  | badTodos (why : Json.Mismatch)
  | notSent (why : Client.Fault)
  | refused (code message : String)

/-- What stands for the message of a refusal without one. -/
def unknownRefusal : String := "Unknown daemon error"

/-- What is told about a hook that has not reported. -/
def Fault.message : Fault → String
  | .inputNotText => "Failed to read stdin: stream did not contain valid UTF-8"
  | .inputNotJson why => "Failed to parse hook input: " ++ why.message
  | .badTodos why => TodoItem.complaint why
  | .notSent why => why.message
  | .refused code message => code ++ ": " ++ message

/-- The text of an input, as far as it is read. -/
def inputText (input : Bytes) : Except Fault String :=
  match Text.ofUtf8? (input.take maxHookInputBytes) with
  | none => .error .inputNotText
  | some text => .ok text

/-- The command for the end of a turn; none if the turn goes on. A blank input says nothing. -/
def stopCommand? (id text : String) : Except Fault (Option Command) :=
  let read : Except Json.Refusal StopInput :=
    if Text.allBlank text then .ok {} else StopInput.shape.decode (Text.utf8 text)
  match read with
  | .error why => .error (.inputNotJson why)
  | .ok i =>
    if i.active then .ok none
    else .ok (some (.stop ⟨id, i.transcriptPath.filter (!Text.allBlank ·), none⟩))

/-- The command for a report of todos. -/
def todosCommand (id text : String) : Except Fault Command :=
  match Json.parse (Text.utf8 text) with
  | .error why => .error (.inputNotJson why)
  | .ok v =>
    match TodoItem.ofHook v.canonical with
    | .error why => .error (.badTodos why)
    | .ok items => .ok (.todos id (items.map TodoItem.line))

/-- The command that a hook sends, if it sends one. -/
def command? (call : HookCall) (id : String) (input : Bytes) : Except Fault (Option Command) :=
  match call with
  | .state s => .ok (some (.state id s))
  | .stop =>
    match inputText input with
    | .error f => .error f
    | .ok text => stopCommand? id text
  | .todo =>
    match inputText input with
    | .error f => .error f
    | .ok text => (todosCommand id text).map some

/-- The milliseconds that a hook waits for the reply. -/
def timeoutMs : HookCall → Nat
  | .stop => Client.stopTimeoutMs
  | .state _ | .todo => Client.replyTimeoutMs

/-- A reply counts if it is one of success. -/
def accepted (r : Reply) : Except Fault Unit :=
  if r.ok then .ok () else .error (.refused (r.code.getD "") (r.error.getD unknownRefusal))

/-- What a hook did: its attempts to reach the daemon, and the result. -/
structure Report (σ : Type) where
  attempts : List Contact := []
  result : Except Fault Unit
  outer : σ

/-- Reports to the daemon. -/
def deliver {σ : Type} (call : HookCall) (client : Client σ) (id : String) (input : Bytes)
    (outer : σ) : Report σ :=
  match call.command? id input with
  | .error f => { result := .error f, outer := outer }
  | .ok none => { result := .ok (), outer := outer }
  | .ok (some c) =>
    let d := client.sendWithRetry c call.timeoutMs outer
    { attempts := d.attempts
      result := match d.result with
        | .error f => .error (.notSent f)
        | .ok r => accepted r
      outer := d.outer }

end HookCall

end SessionWatch
