/-
# The course of a connection

What happens on one connection, from the moment it is let in: something is
read on it, an observer's mailbox is emptied onto it, and in between anything
may happen to the daemon elsewhere. A connection goes through three stages.
While it sends requests every line gets one reply; while it observes every
line is carried out as well, and its reply put into the mailbox; and once it
is closed nothing that is read on it has any effect.

Each stage is told without a connection: `Daemon.answers` are the replies of
the first one and `Daemon.observed` what is left of the daemon, and written,
by the second.

Key definitions: `Moment`, `Course`, `Course.run`, `Daemon.answer`,
`Daemon.answers`, `Daemon.observe`, `Daemon.observed`.
Key theorems: `Course.run_requests`, `Course.run_closed`,
`Course.next_of_stays`, `Course.next_of_ends`, `Course.run_observing`.
-/
import SessionWatch.Connection.Basic
import SessionWatch.Proofs.Feed.Mailbox

namespace SessionWatch

variable {σ : Type}

/-- What can happen while there is a connection. -/
inductive Moment (σ : Type) where
  /-- Something is read on it. -/
  | read (r : Received)
  /-- What is in an observer's mailbox is written on it. -/
  | flush
  /-- Something happens to the daemon, on other connections or outside. -/
  | elsewhere (f : Daemon σ → Daemon σ)

/-- What is read, in order. -/
def reads : List (Moment σ) → List Received
  | [] => []
  | .read r :: ms => r :: reads ms
  | _ :: ms => reads ms

/-- A connection, the lines that were written on it, and the daemon. -/
structure Course (σ : Type) where
  connection : Connection
  written : List String
  daemon : Daemon σ

variable (outside : Outside σ) (setup : Daemon.Setup)

namespace Course

/-- The course after a step of the connection. -/
def add (c : Course σ) (s : Connection.Step σ) : Course σ :=
  ⟨s.connection, c.written ++ s.written, s.daemon⟩

/-- The course after a moment. -/
def next (c : Course σ) : Moment σ → Course σ
  | .read r => c.add (c.connection.receive outside setup r c.daemon)
  | .flush => c.add (c.connection.flush c.daemon)
  | .elsewhere f => { c with daemon := f c.daemon }

/-- The course after some moments. -/
def run (c : Course σ) (ms : List (Moment σ)) : Course σ := ms.foldl (next outside setup) c

theorem run_cons (c : Course σ) (m : Moment σ) (ms : List (Moment σ)) :
    c.run outside setup (m :: ms) = (c.next outside setup m).run outside setup ms := rfl

theorem run_append (c : Course σ) (ms ns : List (Moment σ)) :
    c.run outside setup (ms ++ ns) = (c.run outside setup ms).run outside setup ns :=
  List.foldl_append

end Course

/-! ### Requests -/

namespace Daemon

/-- What comes of a line: a blank one is an empty request, one that is rejected has its reason,
and the command of every other one is carried out. -/
def answer (d : Daemon σ) (line : Bytes) : Handled σ :=
  if line.all Command.isAsciiBlank then { daemon := d, reply := .refusal .emptyRequest }
  else match Command.accept line with
    | .error p => { daemon := d, reply := .refusal p }
    | .ok c => d.carryOut outside setup c

/-- The daemon after some moments in which each line is answered, and the replies. -/
def answers (d : Daemon σ) : List (Moment σ) → Daemon σ × List Reply
  | [] => (d, [])
  | .read (.line line) :: ms =>
    let h := d.answer outside setup line
    let (d, replies) := h.daemon.answers ms
    (d, h.reply :: replies)
  | .elsewhere f :: ms => (f d).answers ms
  | _ :: ms => d.answers ms

theorem answer_of_error {line : Bytes} {p : Problem} (d : Daemon σ)
    (h : Command.ofLine line = .error p) :
    d.answer outside setup line = { daemon := d, reply := .refusal p } := by
  unfold answer
  unfold Command.ofLine at h
  split at h
  · cases h
    rw [if_pos ‹_›]
  · rw [if_neg ‹_›, h]

theorem answer_of_ok {line : Bytes} {c : Command} (d : Daemon σ)
    (h : Command.ofLine line = .ok c) :
    d.answer outside setup line = d.carryOut outside setup c := by
  unfold answer
  unfold Command.ofLine at h
  split at h
  · cases h
  · rw [if_neg ‹_›, h]

end Daemon

/-- A moment in which a line is read that is no subscription, or nothing is read. -/
def Moment.Plain : Moment σ → Prop
  | .read (.line line) => Command.ofLine line ≠ .ok .subscribe
  | .read _ => False
  | .flush | .elsewhere _ => True

namespace Course

/-- A line that is no subscription is answered, and the connection goes on. -/
theorem receiveLine_eq {line : Bytes} (h : Command.ofLine line ≠ .ok .subscribe) (n : Nat)
    (d : Daemon σ) :
    Connection.receiveLine outside setup n line d =
      let h := d.answer outside setup line
      { connection := .requests (n + 1), written := [h.reply.line], daemon := h.daemon
        report := h.report } := by
  unfold Connection.receiveLine
  cases hc : Command.ofLine line with
  | error p =>
    rw [d.answer_of_error outside setup hc]
  | ok c =>
    rw [d.answer_of_ok outside setup hc]
    cases c with
    | subscribe => exact absurd hc h
    | _ => rfl

/-- A line gets one reply, unless it is a subscription. -/
theorem next_line {line : Bytes} (h : Command.ofLine line ≠ .ok .subscribe) (n : Nat)
    (ws : List String) (d : Daemon σ) :
    (⟨.requests n, ws, d⟩ : Course σ).next outside setup (.read (.line line)) =
      ⟨.requests (n + 1), ws ++ [(d.answer outside setup line).reply.line],
        (d.answer outside setup line).daemon⟩ := by
  show add _ (Connection.receiveLine outside setup n line d) = _
  rw [receiveLine_eq outside setup h]
  rfl

/-- **While a connection sends requests each line gets one reply, in order.** -/
theorem run_requests : ∀ (ms : List (Moment σ)), (∀ m ∈ ms, m.Plain) →
    ∀ (n : Nat) (ws : List String) (d : Daemon σ),
      (⟨.requests n, ws, d⟩ : Course σ).run outside setup ms =
        ⟨.requests (n + (reads ms).length),
          ws ++ (d.answers outside setup ms).2.map Reply.line, (d.answers outside setup ms).1⟩
  | [], _, n, ws, d => by
    rw [Daemon.answers, List.map_nil, List.append_nil]
    rfl
  | m :: ms, h, n, ws, d => by
    obtain ⟨hm, hms⟩ := List.forall_mem_cons.mp h
    rw [run_cons]
    cases m with
    | read r =>
      cases r with
      | line line =>
        rw [next_line outside setup hm, run_requests ms hms]
        simp [reads, Daemon.answers, Nat.add_assoc, Nat.add_comm]
      | ended | refused p | waiting => exact hm.elim
    | flush =>
      show run outside setup ⟨.requests n, ws ++ [], d⟩ ms = _
      rw [List.append_nil, run_requests ms hms]
      rfl
    | elsewhere f =>
      exact run_requests ms hms n ws (f d)

end Course

/-- There are as many replies as lines. -/
theorem Daemon.length_answers : ∀ (ms : List (Moment σ)), (∀ m ∈ ms, m.Plain) →
    ∀ d : Daemon σ, (d.answers outside setup ms).2.length = (reads ms).length
  | [], _, _ => rfl
  | m :: ms, h, d => by
    obtain ⟨hm, hms⟩ := List.forall_mem_cons.mp h
    cases m with
    | read r =>
      cases r with
      | line line => exact congrArg (· + 1) (length_answers ms hms _)
      | ended | refused p | waiting => exact hm.elim
    | flush => exact length_answers ms hms d
    | elsewhere f => exact length_answers ms hms (f d)

/-! ### Closed connections -/

/-- The daemon after what happens elsewhere. -/
def Daemon.meanwhile (d : Daemon σ) : List (Moment σ) → Daemon σ
  | [] => d
  | .elsewhere f :: ms => (f d).meanwhile ms
  | _ :: ms => d.meanwhile ms

/-- **Nothing that is read on a closed connection has any effect.** -/
theorem Course.run_closed : ∀ (ms : List (Moment σ)) (ws : List String) (d : Daemon σ),
    (⟨.closed, ws, d⟩ : Course σ).run outside setup ms = ⟨.closed, ws, d.meanwhile ms⟩
  | [], _, _ => rfl
  | m :: ms, ws, d => by
    rw [run_cons]
    cases m with
    | read _ | flush =>
      show run outside setup ⟨.closed, ws ++ [], d⟩ ms = _
      rw [List.append_nil, run_closed ms]
      rfl
    | elsewhere f => exact run_closed ms ws (f d)

/-! ### Observers -/

namespace Daemon

/-- The observer gets lines. -/
def lists (d : Daemon σ) (id : Nat) : Bool := (d.watch.feed.find? id).any (·.listed)

/-- The daemon with another feed. -/
def withFeed (d : Daemon σ) (feed : Feed) : Daemon σ :=
  { d with watch := { d.watch with feed := feed } }

/-- The daemon after a moment, and what is written, while there is an observer: a line is
answered once, the reply is offered to the observer, and nothing is written but what is in the
mailbox of an observer that gets lines. -/
def observe (id : Nat) (d : Daemon σ) : Moment σ → Daemon σ × List String
  | .read (.line line) =>
    let h := d.answer outside setup line
    (h.daemon.withFeed (h.daemon.watch.feed.sendTo id h.reply.line).1, [])
  | .read _ => (d, [])
  | .flush =>
    if d.lists id then (d.withFeed (d.watch.feed.drain id).1, (d.watch.feed.drain id).2)
    else (d, [])
  | .elsewhere f => (f d, [])

/-- The daemon after some moments, and what is written, while there is an observer. -/
def observed (id : Nat) (d : Daemon σ) : List (Moment σ) → Daemon σ × List String
  | [] => (d, [])
  | m :: ms =>
    let (d, ws) := d.observe outside setup id m
    let (d, ws') := d.observed id ms
    (d, ws ++ ws')

end Daemon

/-- The moment ends the connection of an observer: nothing more is to be read, or the observer
gets no lines any more. -/
def Moment.EndsObserving (id : Nat) (d : Daemon σ) : Moment σ → Prop
  | .read .ended | .read (.refused _) => True
  | .read .waiting | .elsewhere _ => False
  | .read (.line line) => (d.observe outside setup id (.read (.line line))).1.lists id = false
  | .flush => d.lists id = false

namespace Course

variable {id : Nat} {d : Daemon σ} {m : Moment σ}

/-- A line is carried out once, and its reply goes to the observer. -/
theorem observeLine_eq (line : Bytes) :
    Connection.observeLine outside setup id line d =
      let h := d.answer outside setup line
      let feed := h.daemon.watch.feed.sendTo id h.reply.line
      if feed.2 then
        { connection := .observing id, written := [], daemon := h.daemon.withFeed feed.1
          report := h.report }
      else { Connection.stopObserving id (h.daemon.withFeed feed.1) with report := h.report } := by
  unfold Connection.observeLine
  cases hc : Command.ofLine line with
  | error p =>
    rw [d.answer_of_error outside setup hc]
    rfl
  | ok c =>
    rw [d.answer_of_ok outside setup hc]
    rfl

/-- The course of an observer's connection that has ended: what was in the mailbox is written. -/
def stopped (id : Nat) (ws : List String) (d : Daemon σ) : Course σ :=
  (⟨.observing id, ws, d⟩ : Course σ).add (Connection.stopObserving id d)

theorem next_line_observing (line : Bytes) (ws : List String) :
    (⟨.observing id, ws, d⟩ : Course σ).next outside setup (.read (.line line)) =
      let d' := (d.observe outside setup id (.read (.line line))).1
      if d'.lists id then ⟨.observing id, ws, d'⟩ else stopped id ws d' := by
  have listed := Feed.listed_sendTo (d.answer outside setup line).daemon.watch.feed id
    (d.answer outside setup line).reply.line
  show add _ (Connection.observeLine outside setup id line d) = _
  rw [observeLine_eq]
  dsimp only
  rw [← listed]
  by_cases h : (d.observe outside setup id (.read (.line line))).1.lists id = true
  · rw [if_pos h]
    refine (congrArg (add _) (if_pos h)).trans ?_
    exact congrArg (Course.mk _ · _) (List.append_nil ws)
  · rw [if_neg h]
    exact (congrArg (add _) (if_neg h)).trans rfl

/-- An observer goes on observing. -/
theorem next_of_stays (stays : ¬ m.EndsObserving outside setup id d) (ws : List String) :
    (⟨.observing id, ws, d⟩ : Course σ).next outside setup m =
      let o := d.observe outside setup id m
      ⟨.observing id, ws ++ o.2, o.1⟩ := by
  cases m with
  | elsewhere f => exact congrArg (Course.mk _ · _) (List.append_nil ws).symm
  | flush =>
    have listed : d.lists id = true := Bool.of_not_eq_false stays
    dsimp only [Daemon.observe]
    rw [if_pos listed]
    exact congrArg (add _) (if_pos listed)
  | read r =>
    cases r with
    | line line =>
      dsimp only [Daemon.observe]
      rw [next_line_observing, List.append_nil]
      exact if_pos (Bool.of_not_eq_false stays)
    | waiting => rfl
    | ended | refused p => exact absurd trivial stays

/-- The connection of an observer ends. -/
theorem next_of_ends (ends : m.EndsObserving outside setup id d) (ws : List String) :
    (⟨.observing id, ws, d⟩ : Course σ).next outside setup m =
      stopped id ws (d.observe outside setup id m).1 := by
  cases m with
  | elsewhere f => exact ends.elim
  | flush =>
    have unlisted : ¬ d.lists id = true := Bool.not_eq_true _ ▸ ends
    dsimp only [Daemon.observe]
    rw [if_neg unlisted]
    exact congrArg (add _) (if_neg unlisted)
  | read r =>
    cases r with
    | line line =>
      rw [next_line_observing]
      exact if_neg (Bool.not_eq_true _ ▸ ends)
    | waiting => exact ends.elim
    | ended | refused p => rfl

/-- **While a connection observes each line is carried out once, in order**, up to the moment
that ends it. -/
theorem run_observing (id : Nat) : ∀ (ms : List (Moment σ)) (ws : List String) (d : Daemon σ),
    ∃ ms₁ ms₂, ms = ms₁ ++ ms₂ ∧
      (⟨.observing id, ws, d⟩ : Course σ).run outside setup ms₁ =
        ⟨.observing id, ws ++ (d.observed outside setup id ms₁).2,
          (d.observed outside setup id ms₁).1⟩ ∧
      (∀ r ∈ reads ms₁, r ≠ .ended ∧ ∀ p, r ≠ .refused p) ∧
      ∀ m ∈ ms₂.head?, m.EndsObserving outside setup id (d.observed outside setup id ms₁).1
  | [], ws, d => by
    refine ⟨[], [], rfl, ?_, nofun, nofun⟩
    rw [Daemon.observed, List.append_nil]
    rfl
  | m :: ms, ws, d => by
    by_cases ends : m.EndsObserving outside setup id d
    · refine ⟨[], m :: ms, rfl, ?_, nofun, ?_⟩
      · rw [Daemon.observed, List.append_nil]
        rfl
      · rintro m' hm'
        cases hm'
        exact ends
    · obtain ⟨ms₁, ms₂, rfl, hrun, hreads, hends⟩ :=
        run_observing id ms (ws ++ (d.observe outside setup id m).2)
          (d.observe outside setup id m).1
      refine ⟨m :: ms₁, ms₂, rfl, ?_, ?_, hends⟩
      · rw [run_cons, next_of_stays outside setup ends]
        dsimp only
        rw [hrun, List.append_assoc]
        rfl
      · cases m with
        | flush | elsewhere => exact hreads
        | read r =>
          refine List.forall_mem_cons.mpr ⟨⟨?_, ?_⟩, hreads⟩
          · rintro rfl
            exact ends trivial
          · rintro p rfl
            exact ends trivial

end Course

end SessionWatch
