/-
# Replies

Every request line gets one reply line: `ok`, and what the request asked for
or why it was refused. Fields without a value are left out.

Key definitions: `Reply`, `Reply.refusal`, `Reply.line`, `Reply.decode`.
-/
import SessionWatch.Json.Printer
import SessionWatch.Schema.FromText
import SessionWatch.Schema.Write
import SessionWatch.Wire.Problem

namespace SessionWatch

/-- The answer to a request. -/
structure Reply where
  ok : Bool
  error : Option String := none
  code : Option String := none
  sessions : Option (List Session) := none
  state : Option State := none
  muted : Option Bool := none
  data : Option Json := none

namespace Reply

/-- The request was carried out, and there is nothing to say. -/
def done : Reply := { ok := true }

/-- The reply to a request that is refused. -/
def refusal (p : Problem) : Reply :=
  { ok := false, error := some p.message, code := some p.code }

def shape : Shape Reply :=
  (Shape.record "struct Response"
    (.plain "ok" .flag (.maybe "error" textShape (.maybe "code" textShape
    (.maybe "sessions" (.list Session.shape) (.maybe "state" (.oneOf State.naming)
    (.maybe "muted" .flag (.maybe "data" .any .nil)))))))).via
    (fun (ok, error, code, sessions, state, muted, data, ()) =>
      ⟨ok, error, code, sessions, state, muted, data⟩)
    (fun r => (r.ok, r.error, r.code, r.sessions, r.state, r.muted, r.data, ()))

/-- The reply line, without its line feed. -/
def line (r : Reply) : String := (shape.toJson r).compact

def decode (text : Bytes) : Except Json.Refusal Reply := shape.decode text

end Reply

end SessionWatch
