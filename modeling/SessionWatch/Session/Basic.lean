/-
# Sessions

A session is one run of an agent in a directory. It is working, idle, waiting
for an answer or waiting for an approval; it has a list of todos, can be
muted, and carries the instants at which it was registered, last changed and
last heard of.

Key definitions: `Agent`, `State`, `MuteKind`, `Session`, `MuteRecord`.
-/
import SessionWatch.Schema.Shape
import SessionWatch.Time.Rfc3339

namespace SessionWatch

/-- The agent program of a session. A name that is not known is some other program. -/
inductive Agent where
  | claude
  | codex
  | other
  deriving DecidableEq

def Agent.name : Agent → String
  | .claude => "claude"
  | .codex => "codex"
  | .other => "other"

def Agent.all : List Agent := [.claude, .codex, .other]

def Agent.naming : Naming Agent := ⟨all, name, some .other⟩

/-- What a session is doing. -/
inductive State where
  | working
  | idle
  | waitingInput
  | pendingApproval
  deriving DecidableEq

def State.name : State → String
  | .working => "working"
  | .idle => "idle"
  | .waitingInput => "waiting_input"
  | .pendingApproval => "pending_approval"

def State.all : List State := [.working, .idle, .waitingInput, .pendingApproval]

def State.naming : Naming State := ⟨all, name, none⟩

/-- The state with a name, or a complaint. -/
def State.parse (name : String) : Except String State :=
  match naming.find? name with
  | some s => .ok s
  | none => .error ("invalid state: " ++ name)

theorem State.parse_name (s : State) : parse s.name = .ok s := by cases s <;> rfl

/-- What can be muted: a session, or a thing outside that sessions are about. -/
inductive MuteKind where
  | session
  | pr
  | repo
  | author
  deriving DecidableEq

def MuteKind.name : MuteKind → String
  | .session => "session"
  | .pr => "pr"
  | .repo => "repo"
  | .author => "author"

def MuteKind.all : List MuteKind := [.session, .pr, .repo, .author]

def MuteKind.naming : Naming MuteKind := ⟨all, name, none⟩

/-- The kind with a name, or a complaint. -/
def MuteKind.parse (name : String) : Except String MuteKind :=
  match naming.find? name with
  | some k => .ok k
  | none => .error ("invalid mute kind: " ++ name)

/-- A session of an agent. -/
structure Session where
  id : String
  label : String
  cwd : String
  agent : Agent
  state : State
  todos : List String
  muted : Bool
  registeredAt : Instant
  updatedAt : Instant
  seenAt : Instant
  deriving DecidableEq

/-- The last mute, which can be undone. -/
structure MuteRecord where
  kind : MuteKind
  id : String
  mutedAt : Instant
  deriving DecidableEq

/-! ## Shapes -/

def textShape : Shape String := .text "a string"

/-- An instant is written as a text. -/
def momentShape : Shape Instant :=
  .refine (.text "an RFC 3339 formatted date and time string")
    (fun s => (Instant.parse s).mapError Instant.Fault.message) Instant.text

/-- A field that has to be there and is always written. -/
def Fields.plain {α β σ : Type} (name : String) (s : Shape α) (rest : Fields β σ) :
    Fields (α × β) (Option α × σ) :=
  .cons name [] s .required (fun _ => false) rest

/-- A field that stands for `v` when it is absent and is always written. -/
def Fields.orElse {α β σ : Type} (name : String) (s : Shape α) (v : α) (rest : Fields β σ) :
    Fields (α × β) (Option α × σ) :=
  .cons name [] s (.defaulted v) (fun _ => false) rest

/-- A field that is absent, or null, when there is nothing. -/
def Fields.maybe {α β σ : Type} (name : String) (s : Shape α) (rest : Fields β σ) :
    Fields (Option α × β) (Option (Option α) × σ) :=
  .cons name [] (.optional s) (.defaulted none) Option.isNone rest

def Session.shape : Shape Session :=
  (Shape.record "struct SessionSnapshot"
    (.plain "id" textShape (.plain "label" textShape (.plain "cwd" textShape
    (.plain "agent" (.oneOf Agent.naming) (.plain "state" (.oneOf State.naming)
    (.orElse "todos" (.list textShape) [] (.orElse "muted" .flag false
    (.plain "registered_at" momentShape (.plain "last_updated_at" momentShape
    (.plain "last_seen_at" momentShape .nil))))))))))).via
    (fun (id, label, cwd, agent, state, todos, muted, reg, upd, seen, ()) =>
      ⟨id, label, cwd, agent, state, todos, muted, reg, upd, seen⟩)
    (fun s => (s.id, s.label, s.cwd, s.agent, s.state, s.todos, s.muted,
      s.registeredAt, s.updatedAt, s.seenAt, ()))

def MuteRecord.shape : Shape MuteRecord :=
  (Shape.record "struct MuteRecord"
    (.plain "kind" (.oneOf MuteKind.naming) (.plain "id" textShape
    (.plain "muted_at" momentShape .nil)))).via
    (fun (kind, id, at', ()) => ⟨kind, id, at'⟩) (fun r => (r.kind, r.id, r.mutedAt, ()))

end SessionWatch
