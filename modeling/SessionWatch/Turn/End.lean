/-
# The end of a turn

The end of a turn is decided in three steps: a ticket is taken, a classifier
may be asked, and the state is put down. Others can change the roster while a
classifier is asked; if they set the state of the session, that stays.

Key definitions: `Outside`, `Backends.consult`, `Turn.Report`, `Turn.finish`.
-/
import SessionWatch.Classifier.Basic
import SessionWatch.Turn.Question
import SessionWatch.Watch.Basic

namespace SessionWatch

/-- What a daemon needs from outside: the time, transcripts, and verdicts. `σ` is whatever state
these have, and the roster may change while a verdict is waited for. -/
structure Outside (σ : Type) where
  now : σ → Instant × σ
  transcript : σ → TranscriptReader
  consult : Question → (timeoutMs : Nat) → Watch × σ →
    Except Classifier.Fault Verdict × Watch × σ

/-- How backends answer when they are asked about a text. -/
abbrev Backends (σ : Type) := Backend → (text : String) → (timeoutMs : Nat) → Watch × σ →
  Except Classifier.Fault Verdict × Watch × σ

/-- A question goes to the backend that is configured for its agent. -/
def Backends.consult {σ : Type} (backends : Backends σ) (config : ClassifierConfig) (q : Question)
    (timeoutMs : Nat) (w : Watch × σ) : Except Classifier.Fault Verdict × Watch × σ :=
  backends (.forAgent config q.agent) q.text timeoutMs w

namespace Turn

/-- What came of the end of a turn. -/
structure Report where
  resolved : State
  reason : Reason
  superseded : Bool
  deriving DecidableEq

/-- The state that an answer leads to; without a verdict the session is idle. -/
def ofVerdict : Except Classifier.Fault Verdict → State × Reason
  | .ok v => (v.state, .classified)
  | .error _ => (.idle, .classifierFallback)

/-- The state to put down; at most one question is asked. -/
def settle {σ : Type} (outside : Outside σ) (config : ClassifierConfig) (w : Watch × σ)
    (d : Decision) : (State × Reason) × Watch × σ :=
  match d with
  | .settled s why => ((s, why), w)
  | .ask q =>
    let (answer, w) := outside.consult q (config.timeoutSecs * 1000) w
    (ofVerdict answer, w)

/-- Carries out the end of a turn; the state that the session is in afterwards is the answer. -/
def finish {σ : Type} (outside : Outside σ) (config : ClassifierConfig) (w : Watch × σ)
    (t : TurnEnd) : Except Problem (State × Report) × Watch × σ :=
  match w.1.roster.beginStop t.id with
  | .error p => (.error p, w)
  | .ok ticket =>
    let decision := decide (outside.transcript w.2) config.maxMessageChars ticket.session t
    let ((resolved, reason), w, outer) := settle outside config w decision
    let (now, outer) := outside.now outer
    let (w, result) := w.commit (w.roster.commitStop ticket resolved now)
    match result with
    | .error p => (.error p, w, outer)
    | .ok r => (.ok (r.state, ⟨resolved, reason, r ≠ .committed resolved⟩), w, outer)

end Turn

end SessionWatch
