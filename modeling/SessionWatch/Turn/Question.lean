/-
# What the end of a turn is about

When a turn ends, the session waits for an answer if a todo is pending, and is
idle if there is nothing to read. Otherwise the end of the last message goes
to a classifier. The message comes with the command, or from the transcript of
the agent.

Key definitions: `Question`, `Decision`, `Turn.messageText?`, `Turn.decide`.
-/
import SessionWatch.Session.Abilities
import SessionWatch.Session.Todo
import SessionWatch.Text.Tail
import SessionWatch.Wire.Command

namespace SessionWatch

/-- How a state came about. -/
inductive Reason where
  | pendingTodos
  | noMessage
  | classified
  | classifierFallback
  deriving DecidableEq

/-- The name of a reason in reports. -/
def Reason.name : Reason → String
  | .pendingTodos => "pending_todos"
  | .noMessage => "no_message"
  | .classified => "classified"
  | .classifierFallback => "classifier_fallback"

/-- A text to be classified for an agent. -/
structure Question where
  agent : Agent
  text : String
  deriving DecidableEq

/-- What the end of a turn leads to. -/
inductive Decision where
  | settled (s : State) (why : Reason)
  | ask (q : Question)
  deriving DecidableEq

/-- The last reply in a transcript, by format, length and path; nothing if it cannot be read. -/
abbrev TranscriptReader := Transcript.Format → Nat → String → Option String

namespace Turn

/-- The text without blanks around it, unless nothing is left. -/
def trimmed? (s : String) : Option String := if Text.trim s = "" then none else some (Text.trim s)

/-- The last reply in the transcript of a session, if there is a transcript and it has one. -/
def transcriptText? (read : TranscriptReader) (maxChars : Nat) (a : Agent) (path : String) :
    Option String :=
  match trimmed? path, a.transcript? with
  | some path, some f => read f maxChars path
  | _, _ => none

/-- The message that ended a turn. -/
def source? (read : TranscriptReader) (maxChars : Nat) (a : Agent) (t : TurnEnd) : Option String :=
  match t.message.bind trimmed?, t.transcriptPath with
  | some m, _ => some m
  | none, some path => transcriptText? read maxChars a path
  | none, none => none

/-- The end of a text, of at most `maxChars` characters, unless it is empty. -/
def clip? (maxChars : Nat) (s : String) : Option String :=
  let text := Text.tail (Text.trim s) maxChars
  if text = "" then none else some text

/-- What there is to read of the message that ended a turn. -/
def messageText? (read : TranscriptReader) (maxChars : Nat) (a : Agent) (t : TurnEnd) :
    Option String :=
  (source? read maxChars a t).bind (clip? maxChars)

/-- What the end of a turn leads to, from the session as it is then. -/
def decide (read : TranscriptReader) (maxChars : Nat) (s : Session) (t : TurnEnd) : Decision :=
  if 0 < pendingCount s.todos then .settled .waitingInput .pendingTodos
  else match messageText? read maxChars s.agent t with
    | none => .settled .idle .noMessage
    | some text => .ask ⟨s.agent, text⟩

end Turn

end SessionWatch
