/-
# Entries of a transcript

An agent program writes its conversation as lines of JSON. Of all the lines
only two kinds matter here: something the user said, which starts a turn, and
something the agent said. What such a line looks like is a matter of the
agent's format.

Key definitions: `Transcript.Format`, `Transcript.Entry`, `Transcript.Entry.ofJson?`.
-/
import SessionWatch.Json.Value

namespace SessionWatch.Transcript

/-- The formats of transcripts. -/
inductive Format where
  | claude
  | codex
  deriving DecidableEq

/-- A line of a transcript that matters. -/
inductive Entry where
  /-- The user said something, so a new turn starts. -/
  | user
  /-- The agent said something. -/
  | reply (text : String)
  deriving DecidableEq

/-- Whether a content is made of tool results and nothing else. -/
def onlyToolResults : Json → Bool
  | .array [] => false
  | .array blocks => blocks.all fun b => b.getString? "type" = some "tool_result"
  | _ => false

/-- The text of a block of a content, if it is a text block and not empty. -/
def blockText? (block : Json) : Option String :=
  match block.getString? "type" with
  | some "text" | some "output_text" =>
    match block.getString? "text" with
    | some "" | none => none
    | some text => some text
  | _ => none

/-- The text of a content: a text, or the texts of its blocks, one a line. -/
def contentText : Json → String
  | .string text => text
  | .array blocks => "\n".intercalate (blocks.filterMap blockText?)
  | _ => ""

/-- A reply with this text; one without text is no entry. -/
def reply? (text : String) : Option Entry := if text = "" then none else some (.reply text)

/-- A line is an entry by its type or by the role of its message. -/
def Entry.ofClaude? (line : Json) : Option Entry :=
  let type := line.getString? "type"
  let role := (line.get? "message").bind (·.getString? "role")
  let content := (line.get? "message").bind (·.get? "content")
  if type = some "user" ∨ role = some "user" then
    if content.any onlyToolResults then none else some .user
  else if type = some "assistant" ∨ role = some "assistant" then
    reply? ((content.map contentText).getD "")
  else none

/-- A line is an event or an item of a response, told apart by its type. -/
def Entry.ofCodex? (line : Json) : Option Entry :=
  match line.get? "payload", line.getString? "type" with
  | some payload, some "event_msg" =>
    match (payload.getString? "message").getD "", payload.getString? "type" with
    | "", _ => none
    | _, some "user_message" => some .user
    | text, some "agent_message" => some (.reply text)
    | _, _ => none
  | some payload, some "response_item" =>
    if payload.getString? "type" = some "message" then
      match payload.getString? "role" with
      | some "user" => some .user
      | some "assistant" => reply? (((payload.get? "content").map contentText).getD "")
      | _ => none
    else none
  | _, _ => none

/-- The entry that a line is, if it is one. -/
def Entry.ofJson? : Format → Json → Option Entry
  | .claude => ofClaude?
  | .codex => ofCodex?

end SessionWatch.Transcript
