/-
# Connections side by side

Each connection is read by a reader of its own, and the readers do not wait for
one another. A reader takes a line, carries out what it asks for, and hands
over the reply, and between any two of these anything may happen: other readers
move on, an observer takes lines out of its mailbox, is removed or lets go of
it. The end of a turn is carried out in two moves, since a verdict is waited
for in between; whatever it is, some state is put down.

A move does at most one thing to the watch, so a run of moves is a run of the
watch. A request that nobody interferes with comes to what the connection does
with its line.

Key definitions: `Stage`, `Reader`, `Traffic`, `Traffic.Move`, `Traffic.step`,
`Traffic.run`, `Traffic.action?`.
Key theorems: `Traffic.read_taken`, `Traffic.watch_step`,
`Traffic.watch_run`, `Traffic.run_receive`.
-/
import Mathlib.Logic.Function.Basic
import SessionWatch.Proofs.Connection.Course
import SessionWatch.Proofs.Watch.Step

namespace SessionWatch

variable {σ : Type}

/-! ### Readers -/

/-- What the reader of a connection is in the middle of. -/
inductive Stage where
  /-- It waits for the next line. -/
  | reading
  /-- It waits for the state that the end of a turn leads to. -/
  | deciding (ticket : Roster.Ticket)
  /-- It has a reply to hand over; after the last one the connection ends. -/
  | answering (reply : Reply) (last : Bool)
  | ended

/-- The reader of a connection, which may be that of an observer. -/
structure Reader where
  observer : Option Nat := none
  stage : Stage := .reading

/-- The reader is where the connection is. -/
def Reader.Follows (r : Reader) : Connection → Prop
  | .requests _ => r = ⟨none, .reading⟩
  | .observing n => r = ⟨some n, .reading⟩
  | .closed => r.stage = .ended

/-- A daemon and the readers of all its connections, by number. -/
structure Traffic (σ : Type) where
  daemon : Daemon σ
  readers : Nat → Reader := fun _ => {}

/-- The reply to the end of a turn. -/
def stopReply : Except Problem Roster.StopResult → Reply
  | .error p => .refusal p
  | .ok r => { Reply.done with state := some r.state }

namespace Traffic

/-- What can happen at a time. -/
inductive Move (σ : Type) where
  /-- A connection's reader takes a line. -/
  | read (c : Nat) (line : Bytes)
  /-- It is settled which state the end of a turn leads to. -/
  | settle (c : Nat) (s : State)
  /-- A connection's reader hands over its reply. -/
  | reply (c : Nat)
  /-- A connection's reader finds nothing more to read. -/
  | leave (c : Nat)
  | take (observer count : Nat)
  | drain (observer : Nat)
  | drop (observer : Nat)
  | remove (observer : Nat)
  /-- Connections come and go, and time passes. -/
  | elsewhere (slots : Slots) (outer : σ)

/-- The traffic with another daemon and another reader of a connection. -/
def put (t : Traffic σ) (d : Daemon σ) (c : Nat) (r : Reader) : Traffic σ :=
  ⟨d, Function.update t.readers c r⟩

/-- The traffic after an action on the mailboxes. -/
def act (t : Traffic σ) (a : Watch.Action) : Traffic σ :=
  { t with daemon := { t.daemon with watch := (t.daemon.watch.act a).1 } }

variable (outside : Outside σ) (setup : Daemon.Setup)

/-- A line is taken and carried out, but for the end of a turn, for which a ticket is taken. -/
def read (t : Traffic σ) (c : Nat) (r : Reader) (line : Bytes) : Traffic σ :=
  match Command.ofLine line with
  | .error p => t.put t.daemon c { r with stage := .answering (.refusal p) false }
  | .ok command =>
    match command, r.observer with
    | .subscribe, none =>
      match t.daemon.watch.subscribe with
      | (w, .error p) =>
        t.put { t.daemon with watch := w } c { r with stage := .answering (.refusal p) true }
      | (w, .ok id) => t.put { t.daemon with watch := w } c { r with observer := some id }
    | .stop e, _ =>
      match t.daemon.watch.roster.beginStop e.id with
      | .error p => t.put t.daemon c { r with stage := .answering (.refusal p) false }
      | .ok ticket => t.put t.daemon c { r with stage := .deciding ticket }
    | command, _ =>
      let h := t.daemon.carryOut outside setup command
      t.put h.daemon c { r with stage := .answering h.reply false }

/-- The state is put down that the end of a turn leads to. -/
def settle (t : Traffic σ) (c : Nat) (r : Reader) (ticket : Roster.Ticket) (s : State) :
    Traffic σ :=
  let (now, outer) := outside.now t.daemon.outer
  let (w, result) := t.daemon.watch.commit (t.daemon.watch.roster.commitStop ticket s now)
  t.put { t.daemon with watch := w, outer := outer } c
    { r with stage := .answering (stopReply result) false }

/-- A reply is handed over: written, or put in the mailbox if it is that of an observer. -/
def reply (t : Traffic σ) (c : Nat) (r : Reader) (reply : Reply) (last : Bool) : Traffic σ :=
  match r.observer with
  | none => t.put t.daemon c { r with stage := if last then .ended else .reading }
  | some n =>
    let (feed, delivered) := t.daemon.watch.feed.sendTo n reply.line
    t.put (t.daemon.withFeed feed) c { r with stage := if delivered then .reading else .ended }

/-- Nothing more is read, and an observer is taken off the list. -/
def leave (t : Traffic σ) (c : Nat) (r : Reader) : Traffic σ :=
  match r.observer with
  | none => t.put t.daemon c { r with stage := .ended }
  | some n =>
    t.put (t.daemon.withFeed (t.daemon.watch.feed.remove n).1) c { r with stage := .ended }

/-- Lets a move take place; a reader at another stage does not move. -/
def step (t : Traffic σ) : Move σ → Traffic σ
  | .read c line =>
    match (t.readers c).stage with
    | .reading => t.read outside setup c (t.readers c) line
    | _ => t
  | .settle c s =>
    match (t.readers c).stage with
    | .deciding ticket => t.settle outside c (t.readers c) ticket s
    | _ => t
  | .reply c =>
    match (t.readers c).stage with
    | .answering reply last => t.reply c (t.readers c) reply last
    | _ => t
  | .leave c =>
    match (t.readers c).stage with
    | .reading => t.leave c (t.readers c)
    | _ => t
  | .take n count => t.act (.take n count)
  | .drain n => t.act (.drain n)
  | .drop n => t.act (.drop n)
  | .remove n => t.act (.remove n)
  | .elsewhere slots outer => { t with daemon := { t.daemon with slots := slots, outer := outer } }

/-- The moves of a run one after the other. -/
def run (t : Traffic σ) (ms : List (Move σ)) : Traffic σ := ms.foldl (step outside setup) t

end Traffic

/-! ### What is done to the watch -/

/-- What a command asks of the roster at a time. -/
def Command.action? (now : Instant) : Command → Option Watch.Action
  | .register r => some (.ask (.register r) now)
  | .unregister id => some (.ask (.unregister id) now)
  | .state id s => some (.ask (.setState id s) now)
  | .todos id ts => some (.ask (.setTodos id ts) now)
  | .heartbeat id => some (.ask (.touch id) now)
  | .mute id kind => some (.ask (.mute kind id) now)
  | .undoMute => some (.ask .undoMute now)
  | .clearLastMuted => some (.ask .clearLastMuted now)
  | .stop _ | .query _ | .subscribe | .health => none

/-- The command is carried out in one move: it does not tell the end of a turn, and is no
subscription, unless on the connection of an observer. -/
def Command.AtOnce (observer : Option Nat) : Command → Prop
  | .stop _ => False
  | .subscribe => observer ≠ none
  | _ => True

/-- The watch after an action, if there is one. -/
def Watch.after (w : Watch) (a? : Option Watch.Action) : Watch := a?.elim w fun a => (w.act a).1

/-- A command that is carried out in one move does one thing to the watch at most. -/
theorem Daemon.watch_carryOut (outside : Outside σ) (setup : Setup) (d : Daemon σ) {c : Command}
    (whole : ∀ e, c ≠ .stop e) : (d.carryOut outside setup c).daemon.watch =
      d.watch.after (c.action? (outside.now d.outer).1) := by
  cases c with
  | stop e => exact absurd rfl (whole e)
  | _ => rfl

namespace Traffic

variable (outside : Outside σ) (setup : Daemon.Setup)

/-- What a line does to the watch. -/
def lineAction? (now : Instant) (observer : Option Nat) (line : Bytes) : Option Watch.Action :=
  match Command.ofLine line, observer with
  | .error _, _ => none
  | .ok .subscribe, none => some .subscribe
  | .ok command, _ => command.action? now

/-- What a move does to the watch. -/
def action? (t : Traffic σ) : Move σ → Option Watch.Action
  | .read c line =>
    match (t.readers c).stage with
    | .reading => lineAction? (outside.now t.daemon.outer).1 (t.readers c).observer line
    | _ => none
  | .settle c s =>
    match (t.readers c).stage with
    | .deciding ticket => some (.ask (.commitStop ticket s) (outside.now t.daemon.outer).1)
    | _ => none
  | .reply c =>
    match (t.readers c).stage with
    | .answering reply _ => (t.readers c).observer.map (.sendTo · reply.line)
    | _ => none
  | .leave c =>
    match (t.readers c).stage with
    | .reading => (t.readers c).observer.map .remove
    | _ => none
  | .take n count => some (.take n count)
  | .drain n => some (.drain n)
  | .drop n => some (.drop n)
  | .remove n => some (.remove n)
  | .elsewhere _ _ => none

/-- What a reader does with a line that it takes: to the watch, with the daemon, and with itself. -/
inductive Taken (d : Daemon σ) (r : Reader) (line : Bytes) :
    Option Watch.Action → Daemon σ → Reader → Prop where
  | rejected {p : Problem} (h : Command.ofLine line = .error p) :
      Taken d r line none d { r with stage := .answering (.refusal p) false }
  | unwelcome {p : Problem} (h : Command.ofLine line = .ok .subscribe) (plain : r.observer = none)
      (refused : d.watch.subscribe.2 = .error p) :
      Taken d r line (some .subscribe) { d with watch := d.watch.subscribe.1 }
        { r with stage := .answering (.refusal p) true }
  | joined {n : Nat} (h : Command.ofLine line = .ok .subscribe) (plain : r.observer = none)
      (granted : d.watch.subscribe.2 = .ok n) :
      Taken d r line (some .subscribe) { d with watch := d.watch.subscribe.1 }
        { r with observer := some n }
  | unknown {e : TurnEnd} {p : Problem} (h : Command.ofLine line = .ok (.stop e))
      (refused : d.watch.roster.beginStop e.id = .error p) :
      Taken d r line none d { r with stage := .answering (.refusal p) false }
  | begun {e : TurnEnd} {ticket : Roster.Ticket} (h : Command.ofLine line = .ok (.stop e))
      (taken : d.watch.roster.beginStop e.id = .ok ticket) :
      Taken d r line none d { r with stage := .deciding ticket }
  | carried {command : Command} (h : Command.ofLine line = .ok command)
      (atOnce : command.AtOnce r.observer) :
      Taken d r line (command.action? (outside.now d.outer).1)
        (d.carryOut outside setup command).daemon
        { r with stage := .answering (d.carryOut outside setup command).reply false }

/-- **What a reader does with a line is one of a few things.** -/
theorem read_taken (t : Traffic σ) (c : Nat) (r : Reader) (line : Bytes) :
    ∃ d' r', t.read outside setup c r line = t.put d' c r' ∧
      Taken outside setup t.daemon r line
        (lineAction? (outside.now t.daemon.outer).1 r.observer line) d' r' := by
  obtain ⟨observer, stage⟩ := r
  unfold read lineAction?
  cases h : Command.ofLine line with
  | error p => exact ⟨_, _, rfl, .rejected h⟩
  | ok command =>
    cases command with
    | subscribe =>
      cases observer with
      | none =>
        cases result : t.daemon.watch.subscribe with
        | mk w answer =>
          have left : w = t.daemon.watch.subscribe.1 := by rw [result]
          subst left
          cases answer with
          | error p => exact ⟨_, _, rfl, .unwelcome h rfl (by rw [result])⟩
          | ok n => exact ⟨_, _, rfl, .joined h rfl (by rw [result])⟩
      | some n => exact ⟨_, _, rfl, .carried h (Option.some_ne_none n)⟩
    | stop e =>
      cases begun : t.daemon.watch.roster.beginStop e.id with
      | error p => exact ⟨_, _, by simp only [begun], .unknown h begun⟩
      | ok ticket => exact ⟨_, _, by simp only [begun], .begun h begun⟩
    | _ => exact ⟨_, _, rfl, .carried h trivial⟩

section step

variable {outside setup} {t : Traffic σ}

variable (outside setup) in
/-- A reader that waits for a line takes it. -/
theorem step_read {c : Nat} (reading : (t.readers c).stage = .reading) (line : Bytes) :
    ∃ d r, t.step outside setup (.read c line) = t.put d c r ∧
      Taken outside setup t.daemon (t.readers c) line (t.action? outside (.read c line)) d r := by
  obtain ⟨d, r, moved, taken⟩ := read_taken outside setup t c (t.readers c) line
  refine ⟨d, r, ?_, ?_⟩
  · simp only [step, reading, moved]
  · simp only [action?, reading]
    exact taken

/-- What is done to the watch is all that changes it. -/
theorem Taken.watch {d d' : Daemon σ} {r r' : Reader} {line : Bytes} {a? : Option Watch.Action}
    (h : Taken outside setup d r line a? d' r') : d'.watch = d.watch.after a? := by
  cases h with
  | rejected | unknown | begun | unwelcome | joined => rfl
  | @carried command _ atOnce =>
    refine d.watch_carryOut outside setup fun e he => ?_
    subst he
    exact atOnce

/-- **A move does one thing to the watch at most.** -/
theorem watch_step (m : Move σ) :
    (t.step outside setup m).daemon.watch = t.daemon.watch.after (t.action? outside m) := by
  cases m with
  | read c line =>
    cases stage : (t.readers c).stage with
    | reading =>
      obtain ⟨d', r', moved, taken⟩ := step_read outside setup stage line
      exact (congrArg (·.daemon.watch) moved).trans taken.watch
    | deciding | answering | ended => simp only [step, action?, stage, Watch.after, Option.elim]
  | settle c s =>
    simp only [step, action?]
    cases (t.readers c).stage <;> rfl
  | reply c =>
    simp only [step, action?, reply]
    cases (t.readers c).stage with
    | answering reply last => cases (t.readers c).observer <;> rfl
    | reading | deciding | ended => rfl
  | leave c =>
    simp only [step, action?, leave]
    cases (t.readers c).stage with
    | reading => cases (t.readers c).observer <;> rfl
    | deciding | answering | ended => rfl
  | take | drain | drop | remove | elsewhere => rfl

/-- What the moves of a run do to the watch. -/
def actions (outside : Outside σ) (setup : Daemon.Setup) (t : Traffic σ) :
    List (Move σ) → List Watch.Action
  | [] => []
  | m :: ms => (t.action? outside m).toList ++ (t.step outside setup m).actions outside setup ms

/-- **A run of moves is a run of the watch.** -/
theorem watch_run : ∀ (ms : List (Move σ)) (t : Traffic σ),
    (t.run outside setup ms).daemon.watch =
      (t.daemon.watch.run (t.actions outside setup ms)).1
  | [], _ => rfl
  | m :: ms, t => by
    have ih := watch_run ms (t.step outside setup m)
    rw [watch_step] at ih
    rw [actions, Watch.run_append_fst]
    refine ih.trans ?_
    cases t.action? outside m <;> rfl

end step

/-! ### Requests that nobody interferes with -/

/-- While a verdict is waited for, nobody does anything to the watch. -/
def LeavesWatch (outside : Outside σ) : Prop := ∀ q ms w s, (outside.consult q ms (w, s)).2.1 = w

section alone

variable {outside setup} {t : Traffic σ} {c : Nat}

@[simp] theorem readers_put_self (d : Daemon σ) (r : Reader) : (t.put d c r).readers c = r :=
  Function.update_self _ _ _

@[simp] theorem daemon_put (d : Daemon σ) (r : Reader) : (t.put d c r).daemon = d := rfl

@[simp] theorem put_put (d d' : Daemon σ) (r r' : Reader) :
    (t.put d c r).put d' c r' = t.put d' c r' := by
  rw [put, put, Function.update_idem]
  rfl

theorem settle_watch (alone : LeavesWatch outside) (config : ClassifierConfig) (w : Watch × σ)
    (decision : Decision) : (Turn.settle outside config w decision).2.1 = w.1 := by
  cases decision with
  | settled s why => rfl
  | ask q => exact alone q _ w.1 w.2

/-- The end of a turn, once it is settled which state is put down. -/
theorem carryOut_stop {d : Daemon σ} {e : TurnEnd} {ticket : Roster.Ticket} {s : State}
    {why : Reason} {outer : σ} (begun : d.watch.roster.beginStop e.id = .ok ticket)
    (settled : Turn.settle outside setup.classifier (d.watch, d.outer)
      (Turn.decide (outside.transcript d.outer) setup.classifier.maxMessageChars ticket.session e) =
        ((s, why), d.watch, outer)) :
    let o := d.watch.commit (d.watch.roster.commitStop ticket s (outside.now outer).1)
    (d.carryOut outside setup (.stop e)).daemon =
        { d with watch := o.1, outer := (outside.now outer).2 } ∧
      (d.carryOut outside setup (.stop e)).reply = stopReply o.2 := by
  intro o
  have finished : Turn.finish outside setup.classifier (d.watch, d.outer) e =
      (o.2.map fun r => (r.state, ⟨s, why, r ≠ .committed s⟩), o.1, (outside.now outer).2) := by
    simp only [Turn.finish, begun, settled, o]
    cases (d.watch.commit (d.watch.roster.commitStop ticket s (outside.now outer).1)).2 <;> rfl
  simp only [Daemon.carryOut, finished]
  cases o.2 <;> exact ⟨rfl, rfl⟩

/-- The end of a turn comes to a ticket, and then a state that is put down. -/
theorem run_stop (alone : LeavesWatch outside) {r : Reader} (reading : r.stage = .reading)
    {line : Bytes} {e : TurnEnd} (h : Command.ofLine line = .ok (.stop e)) (d : Daemon σ) :
    ∃ ms, (t.put d c r).run outside setup ms =
      t.put (d.carryOut outside setup (.stop e)).daemon c
        { r with stage := .answering (d.carryOut outside setup (.stop e)).reply false } := by
  cases begun : d.watch.roster.beginStop e.id with
  | error p =>
    refine ⟨[.read c line], ?_⟩
    simp [run, step, reading, read, h, begun, Daemon.carryOut, Turn.finish]
  | ok ticket =>
    have same := settle_watch alone setup.classifier (d.watch, d.outer)
      (Turn.decide (outside.transcript d.outer) setup.classifier.maxMessageChars ticket.session e)
    rcases hsettled : Turn.settle outside setup.classifier (d.watch, d.outer)
      (Turn.decide (outside.transcript d.outer) setup.classifier.maxMessageChars ticket.session e)
      with ⟨⟨s, why⟩, w, outer⟩
    rw [hsettled] at same
    obtain rfl : w = d.watch := same
    obtain ⟨daemon, reply⟩ := carryOut_stop begun hsettled
    refine ⟨[.read c line, .elsewhere d.slots outer, .settle c s], ?_⟩
    rw [daemon, reply]
    simp only [run, step, reading, read, h, begun, settle, List.foldl_cons, List.foldl_nil,
      readers_put_self, daemon_put, put_put]
    exact put_put (c := c) { d with outer := outer } _ _ _

variable (setup) in
/-- **A line that nobody interferes with comes to its answer.** -/
theorem run_answer (alone : LeavesWatch outside) {r : Reader}
    (reading : r.stage = .reading) {line : Bytes}
    (admitted : r.observer = none → Command.ofLine line ≠ .ok .subscribe) (d : Daemon σ) :
    ∃ ms, (t.put d c r).run outside setup ms =
      t.put (d.answer outside setup line).daemon c
        { r with stage := .answering (d.answer outside setup line).reply false } := by
  cases h : Command.ofLine line with
  | error p =>
    refine ⟨[.read c line], ?_⟩
    rw [d.answer_of_error outside setup h]
    simp [run, step, reading, read, h]
  | ok command =>
    rw [d.answer_of_ok outside setup h]
    cases command with
    | stop e => exact run_stop alone reading h d
    | subscribe =>
      obtain ⟨n, observes⟩ := Option.ne_none_iff_exists'.mp fun plain => admitted plain h
      refine ⟨[.read c line], ?_⟩
      simp [run, step, reading, read, h, observes]
    | _ =>
      refine ⟨[.read c line], ?_⟩
      simp [run, step, reading, read, h]

theorem put_self {r : Reader} (h : t.readers c = r) : t.put t.daemon c r = t := by
  subst h
  exact congrArg (Traffic.mk t.daemon) (Function.update_eq_self c t.readers)

theorem run_append (ms ms' : List (Move σ)) :
    t.run outside setup (ms ++ ms') = (t.run outside setup ms).run outside setup ms' :=
  List.foldl_append

theorem run_observeLine (alone : LeavesWatch outside) (n : Nat) (line : Bytes) (d : Daemon σ) :
    ∃ ms r, (t.put d c ⟨some n, .reading⟩).run outside setup ms =
        t.put (Connection.observeLine outside setup n line d).daemon c r ∧
      r.Follows (Connection.observeLine outside setup n line d).connection := by
  have admitted : some n = none → Command.ofLine line ≠ .ok .subscribe :=
    fun plain => absurd plain (Option.some_ne_none n)
  obtain ⟨ms, answered⟩ :=
    run_answer setup (t := t) (c := c) alone (r := ⟨some n, .reading⟩) rfl admitted d
  rw [Course.observeLine_eq]
  generalize d.answer outside setup line = h at answered ⊢
  cases delivered : (h.daemon.watch.feed.sendTo n h.reply.line).2 with
  | true =>
    refine ⟨ms ++ [.reply c], ⟨some n, .reading⟩, ?_, ?_⟩
    · rw [run_append, answered]
      simp [run, step, reply, delivered]
    · simp [delivered, Reader.Follows]
  | false =>
    refine ⟨ms ++ [.reply c, .remove n, .drain n,
      .elsewhere h.daemon.slots.countOut h.daemon.outer], ⟨some n, .ended⟩, ?_, ?_⟩
    · rw [run_append, answered]
      simp [run, step, reply, delivered, act]
      rfl
    · simp only [delivered, Bool.false_eq_true, if_false]
      exact (rfl : Stage.ended = .ended)

theorem run_receiveLine (alone : LeavesWatch outside) (served : Nat) (line : Bytes)
    (d : Daemon σ) :
    ∃ ms r, (t.put d c ⟨none, .reading⟩).run outside setup ms =
        t.put (Connection.receiveLine outside setup served line d).daemon c r ∧
      r.Follows (Connection.receiveLine outside setup served line d).connection := by
  by_cases subscribes : Command.ofLine line = .ok .subscribe
  · rcases result : d.watch.subscribe with ⟨w, p | n⟩
    · refine ⟨[.read c line, .reply c, .elsewhere d.slots.countOut d.outer], ⟨none, .ended⟩, ?_, ?_⟩
      · simp [run, step, read, reply, Connection.receiveLine, subscribes, result]
        rfl
      · simp [Connection.receiveLine, subscribes, result]
        rfl
    · refine ⟨[.read c line], ⟨some n, .reading⟩, ?_, ?_⟩
      · simp [run, step, read, Connection.receiveLine, subscribes, result]
      · simp [Connection.receiveLine, subscribes, result]
        rfl
  · obtain ⟨ms, answered⟩ :=
      run_answer setup (t := t) (c := c) alone (r := ⟨none, .reading⟩) rfl (fun _ => subscribes) d
    refine ⟨ms ++ [.reply c], ⟨none, .reading⟩, ?_, ?_⟩
    · rw [run_append, answered, Course.receiveLine_eq outside setup subscribes]
      simp [run, step, reply]
    · rw [Course.receiveLine_eq outside setup subscribes]
      rfl

/-- **What is read on a connection comes to a few moves, if nobody interferes.** -/
theorem run_receive (alone : LeavesWatch outside) {k : Connection} {r : Reader}
    (follows : r.Follows k) (received : Received) (d : Daemon σ) :
    ∃ ms r', (t.put d c r).run outside setup ms =
        t.put (k.receive outside setup received d).daemon c r' ∧
      r'.Follows (k.receive outside setup received d).connection := by
  cases k with
  | closed =>
    cases received <;> exact ⟨[], r, rfl, follows⟩
  | requests served =>
    obtain rfl : r = ⟨none, .reading⟩ := follows
    have finished : (t.put d c ⟨none, .reading⟩).run outside setup
        [.leave c, .elsewhere d.slots.countOut d.outer] =
          t.put { d with slots := d.slots.countOut } c ⟨none, .ended⟩ := by
      simp [run, step, leave]
      rfl
    cases received with
    | line line => exact run_receiveLine alone served line d
    | ended => exact ⟨_, _, finished, rfl⟩
    | waiting => exact ⟨[], ⟨none, .reading⟩, rfl, rfl⟩
    | refused p => cases p <;> exact ⟨_, _, finished, rfl⟩
  | observing n =>
    obtain rfl : r = ⟨some n, .reading⟩ := follows
    have finished : (t.put d c ⟨some n, .reading⟩).run outside setup
        [.leave c, .drain n, .elsewhere d.slots.countOut d.outer] =
          t.put (Connection.stopObserving n d).daemon c ⟨some n, .ended⟩ := by
      simp [run, step, leave, act]
      rfl
    cases received with
    | line line => exact run_observeLine alone n line d
    | waiting => exact ⟨[], ⟨some n, .reading⟩, rfl, rfl⟩
    | ended | refused p => exact ⟨_, _, finished, rfl⟩

end alone

end Traffic

end SessionWatch
