/-
# What agent programs can do

Some agent programs can be told to run hooks, some write a transcript that can
be read, and some can classify a message themselves. A program that is not
known can do none of this.

Key definitions: `Agent.displayName`, `Agent.hasHooks`, `Agent.transcript?`,
`Agent.classifier?`.
-/
import SessionWatch.Config.Basic
import SessionWatch.Transcript.Entry

namespace SessionWatch

/-- The argument that stands for the prompt. -/
def promptArgument : String := "\x7bprompt\x7d"

namespace Agent

def displayName : Agent → String
  | .claude => "Claude Code"
  | .codex => "OpenAI Codex"
  | .other => "Other agent"

/-- Whether the program runs hooks. -/
def hasHooks : Agent → Bool
  | .claude => true
  | .codex | .other => false

/-- The format of the program's transcript. -/
def transcript? : Agent → Option Transcript.Format
  | .claude => some .claude
  | .codex => some .codex
  | .other => none

/-- The program's own command for classifying a message. -/
def classifier? : Agent → Option CommandLine
  | .claude => some ⟨"claude", ["-p", "--model", "haiku", "--output-format", "text"]⟩
  | .codex => some ⟨"codex", ["exec", "--skip-git-repo-check", promptArgument]⟩
  | .other => none

end Agent

end SessionWatch
