/-
# The prompt

What a classifier is asked about a message.

Key definitions: `prompt`.
-/

namespace SessionWatch

def promptBefore : String :=
  "Decide whether this assistant message is waiting for the user.\n\n"
    ++ "Reply with JSON only, exactly one of:\n"
    ++ "\x7b\"verdict\":\"WAITING\"\x7d\n"
    ++ "\x7b\"verdict\":\"DONE\"\x7d\n\n"
    ++ "WAITING when the message asks the user a question or asks for confirmation,\n"
    ++ "a choice, clarification or direction. DONE when the message is complete and\n"
    ++ "asks nothing of the user.\n\n"
    ++ "Message:\n\"\"\"\n"

def promptAfter : String := "\n\"\"\"\n"

/-- The question whether a message waits for the user. -/
def prompt (message : String) : String := promptBefore ++ message ++ promptAfter

end SessionWatch
