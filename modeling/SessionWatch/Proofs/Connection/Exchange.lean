/-
# Exchanges

What happens on all connections is noted down: which line a reader takes, which
event that leads to, and which reply is handed over to whom. What is addressed
to an observer can be read off these notes, and so can be what comes of its own
requests: one exchange after the other, the reply behind the event.

An exchange is split over the moves of its reader, and what is noted of it by
then goes with the stage that the reader is at (`Traffic.Pending`). A move
leaves a pending exchange as it is, takes it further or completes it.

Key definitions: `Note`, `Traffic.notes`, `Exchange`, `Exchange.Answers`,
`Traffic.Pending`, `Traffic.Passes`.
Key theorems: `Traffic.letters_eq`, `Traffic.exchanges_step`,
`Traffic.exchanges_run`.
-/
import SessionWatch.Proofs.Connection.Traffic
import SessionWatch.Proofs.Watch.Delivery

namespace SessionWatch

variable {σ : Type}

/-! ### Notes -/

/-- What is noted down about connections. -/
inductive Note where
  /-- A line is taken on a connection. -/
  | asked (c : Nat) (line : Bytes)
  /-- The connection is that of an observer from now on. -/
  | joined (c n : Nat)
  /-- An event is told because of a line of a connection. -/
  | told (c : Nat) (e : Event)
  /-- A reply is handed over by a connection, to the observer if it is that of one. -/
  | replied (c : Nat) (observer : Option Nat) (r : Reply)

/-- What is noted is about the connection. -/
def Note.by (c : Nat) : Note → Bool
  | .asked c' _ | .joined c' _ | .told c' _ | .replied c' _ _ => c' = c

/-- What is noted, as it is addressed to an observer: events are addressed to all of them. -/
def Note.letter? (n : Nat) : Note → Option Watch.Letter
  | .told _ e => some (.event e)
  | .replied _ observer r => if observer = some n then some (.reply r.line) else none
  | .asked _ _ | .joined _ _ => none

/-- The observer that is noted as a new one. -/
def Note.joined? : Note → Option Nat
  | .joined _ n => some n
  | _ => none

/-- The new observer that a step leads to. -/
def Watch.Step.granted? (s : Step) : Option Nat :=
  match s.action with
  | .subscribe => s.before.subscribe.2.toOption
  | _ => none

/-- The connection on which something moves. -/
def Traffic.Move.connection? : Move σ → Option Nat
  | .read c _ | .settle c _ | .reply c | .leave c => some c
  | _ => none

namespace Traffic

variable (outside : Outside σ) (setup : Daemon.Setup)

/-- The event that a move tells. -/
def event? (t : Traffic σ) (m : Move σ) : Option Event :=
  (t.action? outside m).bind fun a => Watch.Step.event? ⟨t.daemon.watch, a⟩

/-- The observer that a move leads to. -/
def granted? (t : Traffic σ) (m : Move σ) : Option Nat :=
  (t.action? outside m).bind fun a => Watch.Step.granted? ⟨t.daemon.watch, a⟩

/-- What is noted of a move. -/
def noted (t : Traffic σ) (m : Move σ) : List Note :=
  match m with
  | .read c line =>
    match (t.readers c).stage with
    | .reading => .asked c line ::
        ((t.event? outside m).toList.map (.told c) ++ (t.granted? outside m).toList.map (.joined c))
    | _ => []
  | .settle c _ => (t.event? outside m).toList.map (.told c)
  | .reply c =>
    match (t.readers c).stage with
    | .answering reply _ => [.replied c (t.readers c).observer reply]
    | _ => []
  | _ => []

/-- What is noted of a run. -/
def notes (t : Traffic σ) : List (Move σ) → List Note
  | [] => []
  | m :: ms => t.noted outside m ++ (t.step outside setup m).notes ms

section notes

variable {outside setup} {t : Traffic σ}

theorem ask_of_action? {now : Instant} {command : Command} {a : Watch.Action}
    (h : command.action? now = some a) : ∃ r, a = .ask r now := by
  cases command with
  | stop _ | query _ | subscribe | health => cases h
  | _ => exact ⟨_, (Option.some.inj h).symm⟩

/-- What a line does to the watch is to ask the roster or to subscribe. -/
theorem lineAction?_cases {now : Instant} {observer : Option Nat} {line : Bytes} {a : Watch.Action}
    (h : lineAction? now observer line = some a) : a = .subscribe ∨ ∃ r, a = .ask r now := by
  unfold lineAction? at h
  split at h
  · cases h
  · exact .inl (Option.some.inj h).symm
  · exact .inr (ask_of_action? h)

theorem letters_toList (n : Nat) (w : Watch) (a? : Option Watch.Action) :
    Watch.letters n (w.steps a?.toList) =
      (a?.bind fun a => Watch.Step.letter? n ⟨w, a⟩).toList := by
  cases a? with
  | none => rfl
  | some a => exact (Watch.letters_cons _ []).trans (List.append_nil _)

/-- What a line leads to is addressed to all observers. -/
theorem letter?_line {now : Instant} {observer : Option Nat} {line : Bytes} {a : Watch.Action}
    (h : lineAction? now observer line = some a) (n : Nat) (w : Watch) :
    Watch.Step.letter? n ⟨w, a⟩ = (Watch.Step.event? ⟨w, a⟩).map .event := by
  obtain rfl | ⟨r, rfl⟩ := lineAction?_cases h <;> rfl

theorem filterMap_told (n c : Nat) (e? : Option Event) :
    (e?.toList.map (Note.told c)).filterMap (Note.letter? n) =
      (e?.map Watch.Letter.event).toList := by
  cases e? <;> rfl

theorem filterMap_joined (n c : Nat) (k? : Option Nat) :
    (k?.toList.map (Note.joined c)).filterMap (Note.letter? n) = [] := by
  cases k? <;> rfl

/-- **What is addressed to an observer in a move is what is noted of it.** -/
theorem letters_step (n : Nat) (m : Move σ) :
    Watch.letters n (t.daemon.watch.steps (t.action? outside m).toList) =
      (t.noted outside m).filterMap (Note.letter? n) := by
  rw [letters_toList]
  cases m with
  | read c line =>
    cases stage : (t.readers c).stage with
    | reading =>
      have told : (t.action? outside (.read c line)).bind
          (fun a => Watch.Step.letter? n ⟨t.daemon.watch, a⟩) =
            (t.event? outside (.read c line)).map .event := by
        simp only [event?, action?, stage]
        cases h : lineAction? (outside.now t.daemon.outer).1 (t.readers c).observer line with
        | none => rfl
        | some a => exact letter?_line h n t.daemon.watch
      simp only [noted, stage]
      rw [told, List.filterMap_cons_none rfl, List.filterMap_append, filterMap_told,
        filterMap_joined, List.append_nil]
    | deciding | answering | ended => simp [noted, action?, stage]
  | settle c s =>
    simp only [noted]
    rw [filterMap_told, event?]
    cases stage : (t.readers c).stage with
    | deciding ticket => simp only [action?, stage]; rfl
    | reading | answering | ended => simp [action?, stage]
  | reply c =>
    cases stage : (t.readers c).stage with
    | answering reply last =>
      cases observer : (t.readers c).observer with
      | none => simp [noted, action?, stage, observer, Note.letter?]
      | some k =>
        by_cases own : k = n <;>
          simp [noted, action?, stage, observer, Note.letter?, Watch.Step.letter?, own]
    | reading | deciding | ended => simp [noted, action?, stage]
  | leave c =>
    cases stage : (t.readers c).stage with
    | reading =>
      cases observer : (t.readers c).observer <;>
        simp [noted, action?, stage, observer, Watch.Step.letter?]
    | deciding | answering | ended => simp [noted, action?, stage]
  | take | drain | drop | remove | elsewhere => rfl

theorem letters_eq (n : Nat) : ∀ (ms : List (Move σ)) (t : Traffic σ),
    Watch.letters n (t.daemon.watch.steps (t.actions outside setup ms)) =
      (t.notes outside setup ms).filterMap (Note.letter? n)
  | [], _ => rfl
  | m :: ms, t => by
    have ih := letters_eq n ms (t.step outside setup m)
    have moved : (t.daemon.watch.run (t.action? outside m).toList).1 =
        (t.step outside setup m).daemon.watch := by
      rw [watch_step]
      cases t.action? outside m <;> rfl
    rw [actions, notes, Watch.steps_append, moved, List.filterMap_append, ← ih, ← letters_step]
    exact List.filterMap_append

end notes

end Traffic

/-! ### Exchanges -/

/-- A line on a connection, the event that it leads to, and the reply to it. -/
structure Exchange where
  line : Bytes
  event : Option Event
  reply : Reply

/-- What is noted of an exchange before the reply is handed over. -/
def Exchange.opening (c : Nat) (x : Exchange) : List Note :=
  .asked c x.line :: x.event.toList.map (.told c)

/-- What is noted of an exchange of an observer. -/
def Exchange.notes (c n : Nat) (x : Exchange) : List Note :=
  x.opening c ++ [.replied c (some n) x.reply]

/-- The event that a command leads to, if it is carried out in one move. -/
def Daemon.told (outside : Outside σ) (d : Daemon σ) (command : Command) : Option Event :=
  (command.action? (outside.now d.outer).1).bind fun a => Watch.Step.event? ⟨d.watch, a⟩

/-- What it leads to that the end of a turn is settled. -/
def Daemon.settled (outside : Outside σ) (d : Daemon σ) (ticket : Roster.Ticket) (s : State) :
    Roster.Outcome Roster.StopResult :=
  d.watch.roster.commitStop ticket s (outside.now d.outer).1

variable (outside : Outside σ) (setup : Daemon.Setup) (found : Daemon σ → Prop)

/-- The event and the reply are what the line leads to, from a daemon that was found. For the end
of a turn one is found when the ticket is taken, and one when the result is put down. -/
inductive Exchange.Answers : Exchange → Prop where
  | rejected {line : Bytes} {p : Problem} (h : Command.ofLine line = .error p) :
      Answers ⟨line, none, .refusal p⟩
  | carried {line : Bytes} {command : Command} (h : Command.ofLine line = .ok command)
      (whole : ∀ e, command ≠ .stop e) {d : Daemon σ} (here : found d) :
      Answers ⟨line, d.told outside command, (d.carryOut outside setup command).reply⟩
  | unknown {line : Bytes} {e : TurnEnd} {p : Problem} (h : Command.ofLine line = .ok (.stop e))
      {d : Daemon σ} (here : found d) (refused : d.watch.roster.beginStop e.id = .error p) :
      Answers ⟨line, none, .refusal p⟩
  | settled {line : Bytes} {e : TurnEnd} {ticket : Roster.Ticket}
      (h : Command.ofLine line = .ok (.stop e)) {d d' : Daemon σ} (here : found d)
      (taken : d.watch.roster.beginStop e.id = .ok ticket) (there : found d') (s : State) :
      Answers ⟨line, (d'.settled outside ticket s).event,
        stopReply (d'.watch.commit (d'.settled outside ticket s)).2⟩

namespace Traffic

/-- What is noted of the exchange that a connection is in the middle of. -/
inductive Pending (c : Nat) : Stage → List Note → Prop where
  | reading : Pending c .reading []
  | ended : Pending c .ended []
  | deciding {line : Bytes} {e : TurnEnd} {ticket : Roster.Ticket}
      (h : Command.ofLine line = .ok (.stop e)) {d : Daemon σ} (here : found d)
      (taken : d.watch.roster.beginStop e.id = .ok ticket) :
      Pending c (.deciding ticket) [.asked c line]
  | answering {x : Exchange} (h : x.Answers outside setup found) (last : Bool) :
      Pending c (.answering x.reply last) (x.opening c)

section exchanges

variable {outside setup found} {t : Traffic σ} {c n : Nat}

variable (outside setup) in
/-- A move on a connection changes the daemon and the reader of that connection. -/
theorem step_put {m : Move σ} (own : m.connection? = some c) :
    ∃ d r, t.step outside setup m = t.put d c r := by
  have still : t = t.put t.daemon c (t.readers c) := (put_self rfl).symm
  cases m with
  | read c' line =>
    cases own
    cases stage : (t.readers c).stage with
    | reading =>
      obtain ⟨d, r, moved, -⟩ := step_read outside setup stage line
      exact ⟨d, r, moved⟩
    | deciding | answering | ended => exact ⟨_, _, by simp only [step, stage]; exact still⟩
  | settle c' s =>
    cases own
    simp only [step]
    cases (t.readers c).stage with
    | deciding ticket => exact ⟨_, _, rfl⟩
    | reading | answering | ended => exact ⟨_, _, still⟩
  | reply c' =>
    cases own
    simp only [step, reply]
    cases (t.readers c).stage with
    | answering reply last => cases (t.readers c).observer <;> exact ⟨_, _, rfl⟩
    | reading | deciding | ended => exact ⟨_, _, still⟩
  | leave c' =>
    cases own
    simp only [step, leave]
    cases (t.readers c).stage with
    | reading => cases (t.readers c).observer <;> exact ⟨_, _, rfl⟩
    | deciding | answering | ended => exact ⟨_, _, still⟩
  | take | drain | drop | remove | elsewhere => cases own

/-- What moves on another connection is no concern of a connection. -/
theorem readers_step_of_ne {m : Move σ} (other : m.connection? ≠ some c) :
    (t.step outside setup m).readers c = t.readers c := by
  cases own : m.connection? with
  | some c' =>
    obtain ⟨d, r, moved⟩ := step_put outside setup (t := t) own
    have apart : c ≠ c' := fun same => other (same ▸ own)
    rw [moved]
    exact Function.update_of_ne apart r t.readers
  | none =>
    cases m with
    | read | settle | reply | leave => cases own
    | take | drain | drop | remove | elsewhere => rfl

/-- What is noted of a move is about its connection. -/
theorem by_of_mem_noted {m : Move σ} {note : Note} (h : note ∈ t.noted outside m) :
    note.by c = true ↔ m.connection? = some c := by
  cases m with
  | read c' line =>
    simp only [noted] at h
    split at h
    · simp only [List.mem_cons, List.mem_append, List.mem_map] at h
      rcases h with rfl | ⟨e, -, rfl⟩ | ⟨k, -, rfl⟩ <;> simp [Note.by, Move.connection?]
    · cases h
  | settle c' s =>
    obtain ⟨e, -, rfl⟩ := List.mem_map.mp h
    simp [Note.by, Move.connection?]
  | reply c' =>
    simp only [noted] at h
    split at h
    · rw [List.mem_singleton.mp h]
      simp [Note.by, Move.connection?]
    · cases h
  | leave | take | drain | drop | remove | elsewhere => cases h

theorem filter_noted_of_eq {m : Move σ} (own : m.connection? = some c) :
    (t.noted outside m).filter (Note.by c) = t.noted outside m :=
  List.filter_eq_self.mpr fun _ h => (by_of_mem_noted h).mpr own

theorem filter_noted_of_ne {m : Move σ} (other : m.connection? ≠ some c) :
    (t.noted outside m).filter (Note.by c) = [] :=
  List.filter_eq_nil_iff.mpr fun _ h => mt (by_of_mem_noted h).mp other

/-- The daemon and reader that a line leads to keep what is pending, on the connection of an
observer. -/
theorem pending_taken {d d' : Daemon σ} {r r' : Reader} {line : Bytes} {a? : Option Watch.Action}
    (here : found d) (observes : r.observer = some n)
    (taken : Taken outside setup d r line a? d' r') :
    r'.observer = some n ∧ Pending outside setup found c r'.stage (.asked c line ::
      ((a?.bind fun a => Watch.Step.event? ⟨d.watch, a⟩).toList.map (.told c))) := by
  cases taken with
  | @rejected p h => exact ⟨observes, .answering (.rejected h) false⟩
  | unwelcome _ plain _ | joined _ plain _ =>
    rw [plain] at observes
    cases observes
  | @unknown e p h refused => exact ⟨observes, .answering (.unknown h here refused) false⟩
  | begun h taken => exact ⟨observes, .deciding h here taken⟩
  | @carried command h atOnce =>
    have whole : ∀ e, command ≠ .stop e := by
      rintro e rfl
      exact atOnce
    exact ⟨observes, .answering (.carried h whole here) false⟩

/-- On the connection of an observer nobody becomes one. -/
theorem granted?_of_observes (observes : (t.readers c).observer = some n) (line : Bytes) :
    t.granted? outside (.read c line) = none := by
  rw [granted?, Option.bind_eq_none_iff]
  intro a ha
  have asks : ∃ r now, a = .ask r now := by
    simp only [action?] at ha
    split at ha
    · unfold lineAction? at ha
      rw [observes] at ha
      split at ha
      · cases ha
      · next _ plain => cases plain
      · obtain ⟨r, rfl⟩ := ask_of_action? ha
        exact ⟨r, _, rfl⟩
    · cases ha
  obtain ⟨r, now, rfl⟩ := asks
  rfl

variable (outside setup found) in
/-- What is noted of a connection goes on with complete exchanges and one that is pending. -/
def GoesOn (c n : Nat) (t' : Traffic σ) (notes : List Note) : Prop :=
  ∃ (stage : Stage) (xs : List Exchange) (pending : List Note),
    t'.readers c = ⟨some n, stage⟩ ∧
      notes = xs.flatMap (Exchange.notes c n) ++ pending ∧
      (∀ x ∈ xs, x.Answers outside setup found) ∧
      Pending outside setup found c stage pending

section moves

variable {t' : Traffic σ} {stage : Stage} {pending : List Note}

theorem goesOn_of_pending (left : t'.readers c = ⟨some n, stage⟩)
    (h : Pending outside setup found c stage pending) :
    GoesOn outside setup found c n t' pending :=
  ⟨stage, [], pending, left, rfl, List.forall_mem_nil _, h⟩

theorem goesOn_of_completed {x : Exchange} (left : t'.readers c = ⟨some n, stage⟩)
    (answers : x.Answers outside setup found)
    (complete : Pending outside setup found c stage []) :
    GoesOn outside setup found c n t' (x.opening c ++ [.replied c (some n) x.reply]) := by
  refine ⟨stage, [x], [], left, ?_, List.forall_mem_singleton.mpr answers, complete⟩
  simp [Exchange.notes]

/-- With a line an exchange begins. -/
theorem goesOn_read (here : found t.daemon) (reader : t.readers c = ⟨some n, .reading⟩)
    (line : Bytes) :
    GoesOn outside setup found c n (t.step outside setup (.read c line))
      (t.noted outside (.read c line)) := by
  have observes : (t.readers c).observer = some n := congrArg Reader.observer reader
  have reading : (t.readers c).stage = .reading := congrArg Reader.stage reader
  obtain ⟨d', r', left, taken⟩ := step_read outside setup reading line
  have noted : t.noted outside (.read c line) =
      .asked c line :: (t.event? outside (.read c line)).toList.map (.told c) := by
    simp only [noted, reader, granted?_of_observes observes line, Option.toList_none,
      List.map_nil, List.append_nil]
  obtain ⟨observes', pending'⟩ := pending_taken (c := c) here observes taken
  rw [left, noted, event?]
  refine goesOn_of_pending ?_ pending'
  rw [readers_put_self, ← observes']

/-- When it is settled which state the end of a turn leads to, the event is told. -/
theorem goesOn_settle {line : Bytes} {e : TurnEnd} {ticket : Roster.Ticket}
    (reader : t.readers c = ⟨some n, .deciding ticket⟩)
    (h : Command.ofLine line = .ok (.stop e)) {d : Daemon σ} (here : found d)
    (taken : d.watch.roster.beginStop e.id = .ok ticket) (there : found t.daemon) (s : State) :
    GoesOn outside setup found c n (t.step outside setup (.settle c s))
      (.asked c line :: t.noted outside (.settle c s)) := by
  let x : Exchange := ⟨line, (t.daemon.settled outside ticket s).event,
    stopReply (t.daemon.watch.commit (t.daemon.settled outside ticket s)).2⟩
  have left : (t.step outside setup (.settle c s)).readers c =
      ⟨some n, .answering x.reply false⟩ := by
    simp only [step, settle, reader, readers_put_self]
    rfl
  have noted : t.noted outside (.settle c s) = x.event.toList.map (.told c) := by
    simp only [noted, event?, action?, reader]
    rfl
  rw [noted]
  exact goesOn_of_pending left (.answering (.settled h here taken there s) false)

/-- With the reply an exchange is complete. -/
theorem goesOn_reply {x : Exchange} {last : Bool}
    (reader : t.readers c = ⟨some n, .answering x.reply last⟩)
    (answers : x.Answers outside setup found) :
    GoesOn outside setup found c n (t.step outside setup (.reply c))
      (x.opening c ++ t.noted outside (.reply c)) := by
  have noted : t.noted outside (.reply c) = [.replied c (some n) x.reply] := by
    simp only [noted, reader]
  have left : (t.step outside setup (.reply c)).readers c =
      ⟨some n, if (t.daemon.watch.feed.sendTo n x.reply.line).2 then .reading else .ended⟩ := by
    simp only [step, reply, reader, readers_put_self]
  rw [noted]
  refine goesOn_of_completed left answers ?_
  split
  · exact .reading
  · exact .ended

theorem goesOn_leave (reader : t.readers c = ⟨some n, .reading⟩) :
    GoesOn outside setup found c n (t.step outside setup (.leave c)) [] := by
  have left : (t.step outside setup (.leave c)).readers c = ⟨some n, .ended⟩ := by
    simp only [step, leave, reader, readers_put_self]
  exact goesOn_of_pending left .ended

/-- **A move goes on with the exchange of an observer, or completes it.** -/
theorem exchanges_step (there : found t.daemon) (reader : t.readers c = ⟨some n, stage⟩)
    (before : Pending outside setup found c stage pending) (m : Move σ) :
    GoesOn outside setup found c n (t.step outside setup m)
      (pending ++ (t.noted outside m).filter (Note.by c)) := by
  by_cases own : m.connection? = some c
  · rw [filter_noted_of_eq own]
    -- a reader moves at one stage only, and at the others nothing happens
    have still (same : t.step outside setup m = t) (unnoted : t.noted outside m = []) :
        GoesOn outside setup found c n (t.step outside setup m)
          (pending ++ t.noted outside m) := by
      rw [same, unnoted, List.append_nil]
      exact goesOn_of_pending reader before
    cases m with
    | read c' line =>
      cases own
      cases before with
      | reading => exact goesOn_read there reader line
      | deciding | answering | ended =>
        exact still (by simp [step, reader]) (by simp [noted, reader])
    | settle c' s =>
      cases own
      cases before with
      | deciding h here taken => exact goesOn_settle reader h here taken there s
      | reading | answering | ended =>
        exact still (by simp [step, reader]) (by simp [noted, event?, action?, reader])
    | reply c' =>
      cases own
      cases before with
      | answering answers last => exact goesOn_reply reader answers
      | reading | deciding | ended =>
        exact still (by simp [step, reader]) (by simp [noted, reader])
    | leave c' =>
      cases own
      cases before with
      | reading => exact goesOn_leave reader
      | deciding | answering | ended => exact still (by simp [step, reader]) rfl
    | take | drain | drop | remove | elsewhere => cases own
  · rw [filter_noted_of_ne own, List.append_nil]
    exact goesOn_of_pending ((readers_step_of_ne own).trans reader) before

variable (outside setup) in
/-- The daemons that some moves find, and the one that they leave. -/
def Passes (t : Traffic σ) (ms : List (Move σ)) (d : Daemon σ) : Prop :=
  ∃ early, early <+: ms ∧ (t.run outside setup early).daemon = d

theorem passes_here (t : Traffic σ) (ms : List (Move σ)) : t.Passes outside setup ms t.daemon :=
  ⟨[], List.nil_prefix, rfl⟩

theorem Passes.cons {m : Move σ} {ms : List (Move σ)} {d : Daemon σ}
    (h : (t.step outside setup m).Passes outside setup ms d) :
    t.Passes outside setup (m :: ms) d := by
  obtain ⟨early, first, rfl⟩ := h
  exact ⟨m :: early, (List.prefix_cons_inj m).mpr first, rfl⟩

/-- **An observer's requests are one exchange after the other.** -/
theorem exchanges_run : ∀ (ms : List (Move σ)) {t : Traffic σ} {stage : Stage}
    {pending : List Note}, (∀ d, t.Passes outside setup ms d → found d) →
      t.readers c = ⟨some n, stage⟩ → Pending outside setup found c stage pending →
      GoesOn outside setup found c n (t.run outside setup ms)
        (pending ++ (t.notes outside setup ms).filter (Note.by c))
  | [], _, _, pending, _, reader, before => by
    rw [notes, List.filter_nil, List.append_nil]
    exact goesOn_of_pending reader before
  | m :: ms, t, _, pending, along, reader, before => by
    obtain ⟨_, xs, pending', reader', noted, answers, after⟩ :=
      exchanges_step (along _ (passes_here t _)) reader before m
    obtain ⟨stage, ys, pending'', reader'', later, answers', after'⟩ :=
      exchanges_run ms (fun d passed => along d passed.cons) reader' after
    refine ⟨stage, xs ++ ys, pending'', reader'', ?_, ?_, after'⟩
    · calc pending ++ (t.notes outside setup (m :: ms)).filter (Note.by c)
          = (pending ++ (t.noted outside m).filter (Note.by c)) ++
              ((t.step outside setup m).notes outside setup ms).filter (Note.by c) := by
            rw [notes, List.filter_append, List.append_assoc]
        _ = xs.flatMap (Exchange.notes c n) ++ (pending' ++
              ((t.step outside setup m).notes outside setup ms).filter (Note.by c)) := by
            rw [noted, List.append_assoc]
        _ = (xs ++ ys).flatMap (Exchange.notes c n) ++ pending'' := by
            rw [later, List.flatMap_append, List.append_assoc]
    · intro x hx
      exact (List.mem_append.mp hx).elim (answers x) (answers' x)

end moves

end exchanges

end Traffic

end SessionWatch
