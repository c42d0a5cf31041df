/-
# Transcripts of connections

What a client gets to see on a connection that is let in, for every stream
that it sends, however that stream is cut into chunks, and whatever happens
elsewhere in the meantime. Each line gets one reply, in order, until there is
something else than an ordinary request: the end, a line that is too long, or
a subscription. A subscription is refused and the connection closed, or the
connection observes: then every line that follows is carried out once, in
order, until the end, a line that is too long, or the observer gets no lines
any more.

Key definitions: `Course.GoesOn`.
Key theorems: `Course.goesOn`, `Course.transcript`.
-/
import SessionWatch.Proofs.Connection.Course
import SessionWatch.Proofs.Connection.Framing
import SessionWatch.Proofs.Watch.Step
import SessionWatch.Proofs.Wire.CommandLine

namespace SessionWatch

variable {σ : Type} (outside : Outside σ) (setup : Daemon.Setup)

/-- What is read of a stream are lines, the end, or a line that is too long. -/
theorem mem_streamReceived {stream : Bytes} {r : Received} (h : r ∈ streamReceived stream) :
    (∃ line, r = .line line) ∨ r = .ended ∨ r = .refused .tooLarge := by
  rcases List.mem_append.mp h with h | h
  · obtain ⟨line, -, rfl⟩ := List.mem_map.mp h
    exact .inl ⟨line, rfl⟩
  · rw [List.mem_singleton] at h
    split at h
    · exact .inr (.inr h)
    · exact .inr (.inl h)

theorem reads_append : ∀ ms ns : List (Moment σ), reads (ms ++ ns) = reads ms ++ reads ns
  | [], _ => rfl
  | .read r :: ms, ns => congrArg (r :: ·) (reads_append ms ns)
  | .flush :: ms, ns | .elsewhere _ :: ms, ns => reads_append ms ns

/-- The moments up to the first thing that is read and is no ordinary request. -/
theorem exists_plain : ∀ ms : List (Moment σ), ∃ before after, ms = before ++ after ∧
    (∀ m ∈ before, m.Plain) ∧ ∀ m ∈ after.head?, ¬ m.Plain
  | [] => ⟨[], [], rfl, nofun, nofun⟩
  | m :: ms => by
    by_cases hm : m.Plain
    · obtain ⟨before, after, rfl, hplain, hafter⟩ := exists_plain ms
      exact ⟨m :: before, after, rfl, List.forall_mem_cons.mpr ⟨hm, hplain⟩, hafter⟩
    · refine ⟨[], m :: ms, rfl, nofun, ?_⟩
      rintro m' hm'
      cases hm'
      exact hm

/-- What is read in such moments are lines that are no subscriptions. -/
theorem mem_reads_of_plain : ∀ {ms : List (Moment σ)}, (∀ m ∈ ms, m.Plain) →
    ∀ r ∈ reads ms, ∃ line, r = .line line ∧ Command.ofLine line ≠ .ok .subscribe
  | [], _, r, hr => absurd hr List.not_mem_nil
  | m :: ms, h, r, hr => by
    obtain ⟨hm, hms⟩ := List.forall_mem_cons.mp h
    cases m with
    | read r' =>
      rcases List.mem_cons.mp hr with rfl | hr
      · cases r with
        | line line => exact ⟨line, rfl, hm⟩
        | ended | refused p | waiting => exact hm.elim
      · exact mem_reads_of_plain hms r hr
    | flush | elsewhere f => exact mem_reads_of_plain hms r hr

/-- A daemon with one connection less. -/
def Daemon.freed (d : Daemon σ) : Daemon σ := { d with slots := d.slots.countOut }

namespace Course

/-- The connection is closed with these lines by what is read, and nothing is carried out in the
moments after. -/
def ClosesWith (c : Course σ) (r : Received) (ms : List (Moment σ)) (lines : List String) : Prop :=
  c.run outside setup (.read r :: ms) =
    ⟨.closed, c.written ++ lines, c.daemon.freed.meanwhile ms⟩

/-- How a connection that sent requests goes on with something that is no ordinary request. -/
inductive GoesOn (c : Course σ) (ms : List (Moment σ)) : Received → Prop where
  | ended (closes : c.ClosesWith outside setup .ended ms []) : GoesOn c ms .ended
  /-- A line that is too long has one reply. -/
  | tooLarge (closes : c.ClosesWith outside setup (.refused .tooLarge) ms
      [(Reply.refusal .tooLarge).line]) : GoesOn c ms (.refused .tooLarge)
  /-- A subscription that is refused has one reply. -/
  | unsubscribed {line : Bytes} {p : Problem} (subscribes : Command.ofLine line = .ok .subscribe)
      (refused : c.daemon.watch.subscribe.2 = .error p)
      (closes : c.ClosesWith outside setup (.line line) ms [(Reply.refusal p).line]) :
      GoesOn c ms (.line line)
  /-- Every line after a subscription is carried out once, in order, and what is written comes
  from the mailbox, up to the moment that ends the connection; nothing is carried out after. -/
  | observing {line : Bytes} {id : Nat} (subscribes : Command.ofLine line = .ok .subscribe)
      (accepted : c.daemon.watch.subscribe.2 = .ok id) {before after : List (Moment σ)}
      (split : ms = before ++ after) (lines : ∀ r ∈ reads before, ∃ line, r = .line line)
      (run : let d := { c.daemon with watch := c.daemon.watch.subscribe.1 }
        c.run outside setup (.read (.line line) :: before) =
          ⟨.observing id, c.written ++ (d.observed outside setup id before).2,
            (d.observed outside setup id before).1⟩)
      (ends : ∀ m rest, after = m :: rest →
        let c' := c.run outside setup (.read (.line line) :: before)
        let s := Connection.stopObserving id (c'.daemon.observe outside setup id m).1
        m.EndsObserving outside setup id c'.daemon ∧
          c.run outside setup (.read (.line line) :: ms) =
            ⟨.closed, c'.written ++ s.written, s.daemon.meanwhile rest⟩) :
      GoesOn c ms (.line line)

section subscription

variable {n : Nat} {ws : List String} {d : Daemon σ} {line : Bytes}

theorem next_of_refused (subscribes : Command.ofLine line = .ok .subscribe) {p : Problem}
    (refused : d.watch.subscribe.2 = .error p) :
    (⟨.requests n, ws, d⟩ : Course σ).next outside setup (.read (.line line)) =
      ⟨.closed, ws ++ [(Reply.refusal p).line], d.freed⟩ := by
  have same := Watch.subscribe_of_error refused
  show add _ (Connection.receiveLine outside setup n line d) = _
  unfold Connection.receiveLine
  rw [subscribes]
  cases hs : d.watch.subscribe with
  | mk w result =>
    rw [hs] at refused same
    cases refused
    cases same
    rfl

theorem next_of_accepted (subscribes : Command.ofLine line = .ok .subscribe) {id : Nat}
    (accepted : d.watch.subscribe.2 = .ok id) :
    (⟨.requests n, ws, d⟩ : Course σ).next outside setup (.read (.line line)) =
      ⟨.observing id, ws, { d with watch := d.watch.subscribe.1 }⟩ := by
  show add _ (Connection.receiveLine outside setup n line d) = _
  unfold Connection.receiveLine
  rw [subscribes]
  cases hs : d.watch.subscribe with
  | mk w result =>
    rw [hs] at accepted
    cases accepted
    exact congrArg (Course.mk _ · _) (List.append_nil ws)

end subscription

/-- **What is no ordinary request closes the connection or makes it an observer's.** -/
theorem goesOn (n : Nat) (ws : List String) (d : Daemon σ) {r : Received}
    {ms : List (Moment σ)} (special : ¬ (Moment.read r : Moment σ).Plain)
    (read : ∀ r' ∈ r :: reads ms,
      (∃ line, r' = .line line) ∨ r' = .ended ∨ r' = .refused .tooLarge) :
    GoesOn outside setup ⟨.requests n, ws, d⟩ ms r := by
  rcases read r List.mem_cons_self with ⟨line, rfl⟩ | rfl | rfl
  · have subscribes : Command.ofLine line = .ok .subscribe := Classical.not_not.mp special
    cases hs : d.watch.subscribe.2 with
    | error p =>
      refine .unsubscribed subscribes hs ?_
      unfold ClosesWith
      rw [run_cons, next_of_refused outside setup subscribes hs]
      exact run_closed outside setup ms _ _
    | ok id =>
      obtain ⟨before, after, rfl, hrun, hreads, hends⟩ :=
        run_observing outside setup id ms ws { d with watch := d.watch.subscribe.1 }
      have start := hrun
      rw [← next_of_accepted outside setup (n := n) subscribes hs, ← run_cons] at start
      refine .observing subscribes hs rfl (fun r hr => ?_) start fun m rest hafter => ?_
      · have hmem : r ∈ reads (before ++ after) := by
          rw [reads_append]
          exact List.mem_append_left _ hr
        rcases read r (List.mem_cons_of_mem _ hmem) with h | rfl | rfl
        · exact h
        · exact absurd rfl (hreads _ hr).1
        · exact absurd rfl ((hreads _ hr).2 _)
      · subst hafter
        have ends := hends m rfl
        rw [← List.cons_append, run_append, start]
        refine ⟨ends, ?_⟩
        rw [run_cons, next_of_ends outside setup ends]
        exact run_closed outside setup rest _ _
  · refine .ended ?_
    show run outside setup ⟨.closed, ws ++ [], d.freed⟩ ms = _
    exact run_closed outside setup ms _ _
  · refine .tooLarge ?_
    show run outside setup ⟨.closed, ws ++ [_], d.freed⟩ ms = _
    exact run_closed outside setup ms _ _

/-- A connection that is let in, before anything is read on it. -/
def arrived (d : Daemon σ) : Course σ :=
  ⟨(Connection.arrive d).connection, (Connection.arrive d).written, (Connection.arrive d).daemon⟩

theorem arrived_eq {d : Daemon σ} (admitted : d.slots.countIn.2 = true) :
    arrived d = ⟨.requests 0, [], { d with slots := d.slots.countIn.1 }⟩ := by
  unfold arrived Connection.arrive
  simp only [admitted, if_pos]

/-- **The transcript of a connection.** Whatever stream a client sends on a connection that was
let in, and however it is cut, its lines are read in order, the last one also without a line
feed, up to one that is too long. Whatever happens elsewhere in between, each line has one reply
until there is something else than an ordinary request, and then the connection goes on as
`GoesOn` says. -/
theorem transcript {d : Daemon σ} (admitted : d.slots.countIn.2 = true) {as : List Arrival}
    {stream : Bytes} (carried : Carries as stream) {ms : List (Moment σ)}
    (read : reads ms <+: readAll (as ++ [.ended])) :
    let answered (before : List (Moment σ)) := (arrived d).daemon.answers outside setup before
    readAll (as ++ [.ended]) = (streamLines stream).1.map .line ++
        [if (streamLines stream).2 then .refused .tooLarge else .ended] ∧
      ∃ before after, ms = before ++ after ∧
        (∀ r ∈ reads before, ∃ line, r = .line line ∧ Command.ofLine line ≠ .ok .subscribe) ∧
        (answered before).2.length = (reads before).length ∧
        (arrived d).run outside setup before = ⟨.requests (reads before).length,
          (answered before).2.map Reply.line, (answered before).1⟩ ∧
        (after = [] ∨ ∃ r rest, after = .read r :: rest ∧
          GoesOn outside setup ((arrived d).run outside setup before) rest r) := by
  have framed := carried.readAll_ended
  have kinds : ∀ r ∈ reads ms, (∃ line, r = .line line) ∨ r = .ended ∨ r = .refused .tooLarge :=
    fun r hr => mem_streamReceived (framed ▸ read.subset hr)
  obtain ⟨before, after, rfl, plain, special⟩ := exists_plain ms
  simp only [arrived_eq admitted]
  have start := run_requests outside setup before plain 0 []
    { d with slots := d.slots.countIn.1 }
  rw [Nat.zero_add, List.nil_append] at start
  refine ⟨framed, before, after, rfl, mem_reads_of_plain plain,
    Daemon.length_answers outside setup before plain _, start, ?_⟩
  cases after with
  | nil => exact .inl rfl
  | cons m rest =>
    have hm := special m rfl
    cases m with
    | flush | elsewhere => exact absurd trivial hm
    | read r =>
      refine .inr ⟨r, rest, rfl, ?_⟩
      rw [start]
      refine goesOn outside setup _ _ _ hm fun r' hr' => kinds r' ?_
      rw [reads_append]
      exact List.mem_append_right _ hr'

/-- A blank line, a line that is no JSON, a subscription and a question for the daemon's health
without a line feed, cut within the subscription and with something going on elsewhere. -/
theorem transcript_subscribed :
    let outside : Outside Unit := ⟨fun _ => (⟨⟨2024, 3, 1⟩, 43200, 0⟩, ()), fun _ _ _ _ => none,
      fun _ _ w => (.error .disabled, w)⟩
    let setup : Daemon.Setup := ⟨{}, 1⟩
    let d : Daemon Unit := .new {} ()
    let subscribe : Bytes := Command.subscribe.toJson.bytes
    let health : Bytes := Command.health.toJson.bytes
    let as : List Arrival := [.bytes ([0x20, 0x0A, 0x7B, 0x0A] ++ subscribe.take 3), .interrupted,
      .bytes (subscribe.drop 3 ++ 0x0A :: health)]
    let stream : Bytes := [0x20, 0x0A, 0x7B, 0x0A] ++ subscribe ++ 0x0A :: health
    let ms : List (Moment Unit) := [.read (.line [0x20]), .elsewhere fun d => d,
      .read (.line [0x7B]), .read (.line subscribe), .read (.line health), .flush, .read .ended]
    let start := arrived d
    d.slots.countIn.2 = true ∧ Carries as stream ∧ reads ms <+: readAll (as ++ [.ended]) ∧
      Command.ofLine subscribe = .ok .subscribe ∧
      ∃ before after, ms = before ++ after ∧
        start.run outside setup before = ⟨.requests (reads before).length,
          (start.daemon.answers outside setup before).2.map Reply.line,
          (start.daemon.answers outside setup before).1⟩ ∧
        (after = [] ∨ ∃ r rest, after = .read r :: rest ∧
          GoesOn outside setup (start.run outside setup before) rest r) := by
  intro outside setup d subscribe health as stream ms start
  have carried : Carries as stream := .bytes _ (.interrupted (.bytes _ .nil))
  have read : reads ms <+: readAll (as ++ [.ended]) := by
    rw [carried.readAll_ended]
    exact ⟨[], rfl⟩
  have subscribes : Command.ofLine subscribe = .ok .subscribe := by
    have line := Command.ofLine_line .subscribe
    rw [Command.accept_line rfl, Command.line, Json.utf8_compact] at line
    exact line
  obtain ⟨-, before, after, split, -, -, run, goes⟩ :=
    transcript outside setup (d := d) rfl carried read
  exact ⟨rfl, carried, read, subscribes, before, after, split, run, goes⟩

end Course

end SessionWatch
