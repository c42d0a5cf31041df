/-
# Clients

A client reaches the daemon through its socket, unless the environment
switches that off. A command that may have reached the daemon is never sent
again; one that found no connection may be tried once more.

Key definitions: `Client`, `Client.isEnabled`, `Client.exchange`,
`Client.send`, `Client.sendWithRetry`, `Delivery`.
-/
import SessionWatch.Client.Contact
import SessionWatch.Files.Places
import SessionWatch.Wire.Command

namespace SessionWatch

/-- A way to the daemon; `σ` is the state of what is outside. -/
structure Client (σ : Type) where
  enabled : Bool
  /-- The path of the socket, if there is one. -/
  socket : Option String
  /-- Sends a line and waits up to some milliseconds for what comes back. -/
  reach : (socket : String) → (timeoutMs : Nat) → (line : Bytes) → σ → Contact × σ

/-- What became of a command: the attempts in their order, and the result. -/
structure Delivery (σ α : Type) where
  attempts : List Contact := []
  result : Except Client.Fault α
  outer : σ

namespace Client

variable {σ : Type}

/-- The values of the variable that switches clients off. -/
def offValues : List String := ["0", "false", "FALSE", "no", "NO"]

/-- What the variable that switches clients off says; without it they are on. -/
def isEnabled (setting : Option String) : Bool := setting.all fun v => !offValues.contains v

/-- The milliseconds that a reply is waited for. -/
def replyTimeoutMs : Nat := 600

/-- The milliseconds that the reply to the end of a turn is waited for: longer than any
classification. -/
def stopTimeoutMs : Nat := 45000

/-- The bytes of a command on the wire. -/
def wireLine (c : Command) : Bytes := Text.utf8 (c.line ++ "\n")

/-- Sends a command; the result is what came back and how that ended. -/
def exchange (client : Client σ) (c : Command) (timeoutMs : Nat) (outer : σ) :
    Delivery σ (Bytes × Contact.Ending) :=
  if client.enabled then
    match client.socket with
    | none => { result := .error .noSocketPath, outer := outer }
    | some path =>
      let (contact, outer) := client.reach path timeoutMs (wireLine c) outer
      { attempts := [contact]
        result := match contact with
          | .notConnected why => .error (.notConnected path why)
          | .notWritten why => .error (.notWritten why)
          | .answered bytes ending => .ok (bytes, ending)
        outer := outer }
  else { result := .error .disabled, outer := outer }

/-- Sends a command and reads the reply. -/
def send (client : Client σ) (c : Command) (timeoutMs : Nat) (outer : σ) : Delivery σ Reply :=
  let d := client.exchange c timeoutMs outer
  { attempts := d.attempts
    result := match d.result with
      | .error f => .error f
      | .ok (bytes, ending) => readReply bytes ending
    outer := d.outer }

/-- Sends a command, and tries once more if there was no connection. -/
def sendWithRetry (client : Client σ) (c : Command) (timeoutMs : Nat) (outer : σ) :
    Delivery σ Reply :=
  let first := client.send c timeoutMs outer
  match first.result with
  | .error (.notConnected _ _) =>
    let second := client.send c timeoutMs first.outer
    { second with attempts := first.attempts ++ second.attempts }
  | _ => first

end Client

end SessionWatch
