/-
# What can be wrong with a request

Every refusal has a cause; its code is for programs, its message for people.

Key definitions: `Problem`, `Problem.code`, `Problem.message`, `Problem.report`.
-/
import SessionWatch.Session.Basic

namespace SessionWatch

/-- The most bytes that a line may have. -/
def maxLineBytes : Nat := 1048576

/-- The most bytes that the id of a session may have. -/
def maxIdBytes : Nat := 256

/-- Why a request is refused. -/
inductive Problem where
  | emptyRequest
  | notJson (why : Json.Refusal)
  | notObject
  | commandNotText
  | commandMissing
  | unknownCommand (name : String)
  | badFields (command : String) (why : Json.Mismatch)
  | idMissing
  | idTooLong
  | directoryMissing
  | unknownSession (id : String)
  | nothingToUndo
  | tooManyObservers (max : Nat)
  | alreadySubscribed
  | tooManyConnections
  | timedOut
  | tooLarge
  | notRead (why : String)

namespace Problem

/-- The code of a problem on the wire. -/
def code : Problem → String
  | emptyRequest => "empty_request"
  | notJson _ | notObject => "invalid_json"
  | commandNotText | badFields _ _ => "invalid_params"
  | commandMissing => "missing_cmd"
  | unknownCommand _ => "unknown_command"
  | idMissing | directoryMissing => "missing_field"
  | idTooLong => "invalid_id"
  | unknownSession _ => "unknown_session"
  | nothingToUndo => "nothing_to_undo"
  | tooManyObservers _ => "too_many_subscribers"
  | alreadySubscribed => "already_subscribed"
  | tooManyConnections => "too_many_connections"
  | timedOut => "read_timeout"
  | tooLarge => "request_too_large"
  | notRead _ => "read_error"

/-- What is told about a problem. -/
def message : Problem → String
  | emptyRequest => "request body was empty"
  | notJson why => "request was not valid JSON: " ++ why.message
  | notObject => "request must be a JSON object"
  | commandNotText => "cmd must be a string"
  | commandMissing => "cmd is required"
  | unknownCommand name => "unknown command: " ++ name
  | badFields command why => "invalid " ++ command ++ " command: " ++ why.message
  | idMissing => "id is required"
  | idTooLong => "id must be " ++ toString maxIdBytes ++ " characters or fewer"
  | directoryMissing => "cwd is required"
  | unknownSession id => "unknown session: " ++ id
  | nothingToUndo => "nothing to undo"
  | tooManyObservers max => "too many subscribers (max " ++ toString max ++ ")"
  | alreadySubscribed => "connection is already subscribed"
  | tooManyConnections => "too many connections"
  | timedOut => "request timed out"
  | tooLarge => "request exceeded maximum size"
  | notRead why => "failed to read request: " ++ why

/-- Code and message in one line. -/
def display (p : Problem) : String := p.code ++ ": " ++ p.message

end Problem

/-- A problem as it is reported: its code and message. -/
structure Report where
  code : String
  message : String
  deriving DecidableEq

def Problem.report (p : Problem) : Report := ⟨p.code, p.message⟩

def Report.shape : Shape Report :=
  (Shape.record "struct ErrorInfo" (.plain "code" textShape (.plain "message" textShape .nil))).via
    (fun (code, message, ()) => ⟨code, message⟩) (fun r => (r.code, r.message, ()))

end SessionWatch
