/-
# A line to the daemon and back

Every command goes over a connection of its own: one line there, one line
back. What can be read of the line that comes back is bounded.

Key definitions: `Contact`, `Contact.Ending`, `Client.Fault`, `Client.replyLine`,
`Client.readReply`.
-/
import SessionWatch.Text.Blank
import SessionWatch.Wire.Reply

namespace SessionWatch

/-- Why no connection comes about. -/
inductive ConnectFault where
  | missing
  | refused
  | failed (why : String)
  deriving DecidableEq

/-- What is told about a connection that does not come about. -/
def ConnectFault.message : ConnectFault → String
  | .missing => "No such file or directory (os error 2)"
  | .refused => "Connection refused (os error 111)"
  | .failed why => why

/-- How what comes back ends. -/
inductive Contact.Ending where
  | closed
  /-- Nothing more came in time. -/
  | silent
  | failed (why : String)
  deriving DecidableEq

/-- What comes of an attempt to send a line. -/
inductive Contact where
  | notConnected (why : ConnectFault)
  /-- There was a connection, but the line did not get through as a whole. -/
  | notWritten (why : String)
  /-- The line was sent, and this came back. -/
  | answered (bytes : Bytes) (ending : Contact.Ending)
  deriving DecidableEq

/-- The line, or a part of it, may have reached the daemon. -/
def Contact.wrote : Contact → Bool
  | .notConnected _ => false
  | .notWritten _ | .answered _ _ => true

namespace Client

/-- Why a command has no reply. -/
inductive Fault where
  | disabled
  | noSocketPath
  | notConnected (path : String) (why : ConnectFault)
  | notWritten (why : String)
  | timedOut
  | notRead (why : String)
  | tooLarge
  | empty
  | notJson (why : Json.Refusal)

/-- What is told about a command without a reply. -/
def Fault.message : Fault → String
  | .disabled => "daemon disabled via ATTN_DAEMON_ENABLED"
  | .noSocketPath => "failed to resolve daemon socket: Home directory not found"
  | .notConnected path why =>
    "failed to connect to daemon socket " ++ path ++ ": " ++ why.message
  | .notWritten why => "failed to write request: " ++ why
  | .timedOut => "timed out waiting for daemon response"
  | .notRead why => "failed to read response: " ++ why
  | .tooLarge => "daemon response exceeded maximum size"
  | .empty => "daemon closed the connection without a response"
  | .notJson why => "failed to parse response JSON: " ++ why.message

/-- The bytes up to the first line feed and with it; nothing if there is none. -/
def throughLineFeed? : Bytes → Option Bytes
  | [] => none
  | b :: bs => if b = 0x0A then some [b] else (throughLineFeed? bs).map (b :: ·)

/-- The first line of what came back, with its line feed. No more than the longest line and
one byte are looked at. -/
def replyLine (bytes : Bytes) (ending : Contact.Ending) : Except Fault Bytes :=
  let seen := bytes.take (maxLineBytes + 1)
  match throughLineFeed? seen with
  | some line => if maxLineBytes < line.length then .error .tooLarge else .ok line
  | none =>
    if maxLineBytes < seen.length then .error .tooLarge
    else match ending with
      | .closed => .ok seen
      | .silent => .error .timedOut
      | .failed why => .error (.notRead why)

/-- The reply that a line is; blanks around it do not matter. -/
def decodeReply (line : Bytes) : Except Fault Reply :=
  let text := Text.trim (Text.ofUtf8Lossy line)
  if text = "" then .error .empty else (Reply.decode (Text.utf8 text)).mapError .notJson

/-- The reply in what came back. -/
def readReply (bytes : Bytes) (ending : Contact.Ending) : Except Fault Reply :=
  match replyLine bytes ending with
  | .error f => .error f
  | .ok line => decodeReply line

end Client

end SessionWatch
