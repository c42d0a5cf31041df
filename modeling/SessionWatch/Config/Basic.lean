/-
# Configuration

Everything has a default, so a configuration may leave out what it likes.
Bounds that would be switched off by a zero are raised to one, and the time
for a classification is kept between one and thirty seconds.

Key definitions: `Config`, `Config.shape`, `Config.normalized`.
-/
import SessionWatch.Schema.FromText
import SessionWatch.Schema.Write
import SessionWatch.Session.Basic

namespace SessionWatch

/-- A program to run and its arguments. -/
structure CommandLine where
  program : String
  args : List String
  deriving DecidableEq

/-- How many connections are served, and how long one may be silent. -/
structure ServerConfig where
  maxConnections : Nat := 64
  readTimeoutMs : Nat := 2000
  deriving DecidableEq

/-- How many observers there may be, and how many lines wait for each. -/
structure BroadcastConfig where
  queueCapacity : Nat := 256
  maxSubscribers : Nat := 16
  deriving DecidableEq

/-- How the ends of turns are classified; `agents` has the commands of single agents by name. -/
structure ClassifierConfig where
  enabled : Bool := true
  program : String := "claude"
  args : List String := ["-p", "--model", "haiku", "--output-format", "text"]
  timeoutSecs : Nat := 20
  maxMessageChars : Nat := 500
  agents : List (String × CommandLine) := []
  deriving DecidableEq

/-- The configuration of a daemon. -/
structure Config where
  server : ServerConfig := {}
  broadcast : BroadcastConfig := {}
  classifier : ClassifierConfig := {}
  deriving DecidableEq

def CommandLine.shape : Shape CommandLine :=
  (Shape.record "struct ClassifierCommandConfig"
    (.plain "program" textShape (.orElse "args" (.list textShape) [] .nil))).via
    (fun (program, args, ()) => ⟨program, args⟩) (fun c => (c.program, c.args, ()))

def sizeShape : Shape Nat := .count wordBound "usize"

def wordShape : Shape Nat := .count wordBound "u64"

def ServerConfig.shape : Shape ServerConfig :=
  let d : ServerConfig := {}
  (Shape.record "struct ServerConfig"
    (.orElse "max_connections" sizeShape d.maxConnections
    (.orElse "read_timeout_ms" wordShape d.readTimeoutMs .nil))).via
    (fun (connections, timeout, ()) => ⟨connections, timeout⟩)
    (fun c => (c.maxConnections, c.readTimeoutMs, ()))

def BroadcastConfig.shape : Shape BroadcastConfig :=
  let d : BroadcastConfig := {}
  (Shape.record "struct BroadcastConfig"
    (.orElse "queue_capacity" sizeShape d.queueCapacity
    (.orElse "max_subscribers" sizeShape d.maxSubscribers .nil))).via
    (fun (capacity, subscribers, ()) => ⟨capacity, subscribers⟩)
    (fun c => (c.queueCapacity, c.maxSubscribers, ()))

def ClassifierConfig.shape : Shape ClassifierConfig :=
  let d : ClassifierConfig := {}
  (Shape.record "struct ClassifierConfig"
    (.orElse "enabled" .flag d.enabled
    (.orElse "program" textShape d.program
    (.orElse "args" (.list textShape) d.args
    (.orElse "timeout_secs" wordShape d.timeoutSecs
    (.orElse "max_message_chars" sizeShape d.maxMessageChars
    (.orElse "agents" (.dict CommandLine.shape) d.agents .nil))))))).via
    (fun (enabled, program, args, timeout, chars, agents, ()) =>
      ⟨enabled, program, args, timeout, chars, agents⟩)
    (fun c => (c.enabled, c.program, c.args, c.timeoutSecs, c.maxMessageChars, c.agents, ()))

namespace Config

def shape : Shape Config :=
  (Shape.record "struct DaemonConfig"
    (.orElse "server" ServerConfig.shape {}
    (.orElse "broadcast" BroadcastConfig.shape {}
    (.orElse "classifier" ClassifierConfig.shape {} .nil)))).via
    (fun (server, broadcast, classifier, ()) => ⟨server, broadcast, classifier⟩)
    (fun c => (c.server, c.broadcast, c.classifier, ()))

def decode (text : Bytes) : Except Json.Refusal Config := shape.decode text

/-- The shortest and the longest time for a classification, in seconds. -/
def timeoutBounds : Nat × Nat := (1, 30)

/-- The configuration with every bound in force. -/
def normalized (c : Config) : Config where
  server :=
    { maxConnections := max c.server.maxConnections 1
      readTimeoutMs := max c.server.readTimeoutMs 1 }
  broadcast :=
    { queueCapacity := max c.broadcast.queueCapacity 1
      maxSubscribers := max c.broadcast.maxSubscribers 1 }
  classifier :=
    { c.classifier with
      timeoutSecs := min (max c.classifier.timeoutSecs timeoutBounds.1) timeoutBounds.2
      maxMessageChars := max c.classifier.maxMessageChars 1 }

theorem normalized_normalized (c : Config) : c.normalized.normalized = c.normalized := by
  simp only [normalized, timeoutBounds, mk.injEq, ServerConfig.mk.injEq, BroadcastConfig.mk.injEq,
    ClassifierConfig.mk.injEq, true_and, and_true]
  refine ⟨⟨?_, ?_⟩, ⟨?_, ?_⟩, ?_, ?_⟩ <;> omega

end Config

end SessionWatch
