/-
# The order of replies

A reply goes to the observer on whose connection the line was read, behind the
event that the line leads to. It goes to no other observer that was there
before or comes later, since no id is given out twice: a connection is that of
one observer at most, and an id that of one connection at most.

Key definitions: `Traffic.Sound`.
Key theorems: `Traffic.observer_step`, `Traffic.Sound.run`,
`Traffic.stream_of_joined`, `Traffic.replies_ordered`.
-/
import SessionWatch.Proofs.Connection.Exchange
import SessionWatch.Proofs.Watch.Bounds
import SessionWatch.Proofs.Wire.CommandLine

namespace SessionWatch

namespace Traffic

variable {σ : Type} (outside : Outside σ) (setup : Daemon.Setup)

/-! ### Who is which observer -/

section observers

variable {outside setup} {t : Traffic σ} {c n : Nat}

/-- The id that was given out last. -/
def lastId (t : Traffic σ) : Nat := t.daemon.watch.feed.lastId

variable (outside setup t) in
theorem lastId_step (m : Move σ) : t.lastId ≤ (t.step outside setup m).lastId := by
  unfold lastId
  rw [watch_step]
  cases t.action? outside m with
  | none => exact Nat.le_refl _
  | some a => exact Watch.lastId_act _ a

/-- A move that leads to a new observer is a subscription. -/
theorem subscribe_of_granted {m : Move σ} (granted : t.granted? outside m = some n) :
    t.action? outside m = some .subscribe ∧ t.daemon.watch.subscribe.2 = .ok n := by
  rw [granted?, Option.bind_eq_some_iff] at granted
  obtain ⟨a, action, given⟩ := granted
  cases a with
  | subscribe =>
    refine ⟨action, ?_⟩
    change t.daemon.watch.subscribe.2.toOption = some n at given
    cases result : t.daemon.watch.subscribe.2 with
    | error p =>
      rw [result] at given
      cases given
    | ok k =>
      rw [result] at given
      exact congrArg Except.ok (Option.some.inj given)
  | _ => cases given

variable (setup) in
/-- The id of a new observer is above all that were given out. -/
theorem granted_fresh {m : Move σ} (granted : t.granted? outside m = some n) :
    n = t.lastId + 1 ∧ (t.step outside setup m).lastId = n := by
  obtain ⟨action, result⟩ := subscribe_of_granted granted
  obtain ⟨fresh, last⟩ := Watch.subscribe_ok result
  refine ⟨fresh, ?_⟩
  rw [lastId, watch_step, action]
  exact last

variable (outside setup t) in
/-- Nobody is an observer but as before, or as a new one. -/
theorem observer_step (m : Move σ) (c : Nat) :
    ((t.step outside setup m).readers c).observer = (t.readers c).observer ∨
      m.connection? = some c ∧ (t.readers c).observer = none ∧
        ((t.step outside setup m).readers c).observer = t.granted? outside m := by
  by_cases own : m.connection? = some c
  · cases m with
    | read c' line =>
      cases own
      cases stage : (t.readers c).stage with
      | reading =>
        obtain ⟨d', r', moved, taken⟩ := step_read outside setup stage line
        rw [moved, readers_put_self, granted?]
        generalize t.action? outside (.read c line) = a? at taken ⊢
        cases taken with
        | rejected | unknown | begun | unwelcome | carried => exact .inl rfl
        | joined _ plain result =>
          refine .inr ⟨rfl, plain, ?_⟩
          simp [Watch.Step.granted?, result, Except.toOption]
      | deciding | answering | ended => exact .inl (by simp [step, stage])
    | settle c' s =>
      cases own
      refine .inl ?_
      simp only [step]
      cases (t.readers c).stage with
      | deciding ticket => simp only [settle, readers_put_self]
      | reading | answering | ended => rfl
    | reply c' =>
      cases own
      refine .inl ?_
      simp only [step, reply]
      cases (t.readers c).stage with
      | answering reply last =>
        cases (t.readers c).observer <;> simp
      | reading | deciding | ended => rfl
    | leave c' =>
      cases own
      refine .inl ?_
      simp only [step, leave]
      cases (t.readers c).stage with
      | reading => cases (t.readers c).observer <;> simp
      | deciding | answering | ended => rfl
    | take | drain | drop | remove | elsewhere => cases own
  · exact .inl (congrArg Reader.observer (readers_step_of_ne own))

/-- The watch is sound, no id was given to two connections, and none ahead of the last one. -/
structure Sound (t : Traffic σ) : Prop where
  watch : t.daemon.watch.Sound
  apart : ∀ c c' n, (t.readers c).observer = some n → (t.readers c').observer = some n → c = c'
  known : ∀ c n, (t.readers c).observer = some n → n ≤ t.lastId

theorem sound_new (config : Config) (outer : σ) :
    Sound ({ daemon := .new config outer } : Traffic σ) :=
  ⟨Watch.sound_new _ _, fun _ _ _ h => absurd h nofun, fun _ _ h => absurd h nofun⟩

theorem Sound.step (h : t.Sound) (m : Move σ) : (t.step outside setup m).Sound := by
  refine ⟨?_, fun c c' n hc hc' => ?_, fun c n hc => ?_⟩
  · rw [watch_step]
    cases t.action? outside m with
    | none => exact h.watch
    | some a => exact h.watch.act a
  · rcases observer_step outside setup t m c with
      same | ⟨own, -, new⟩ <;>
    rcases observer_step outside setup t m c' with
      same' | ⟨own', -, new'⟩
    · exact h.apart c c' n (same ▸ hc) (same' ▸ hc')
    · have fresh := (granted_fresh setup (new' ▸ hc')).1
      have old := h.known c n (same ▸ hc)
      omega
    · have fresh := (granted_fresh setup (new ▸ hc)).1
      have old := h.known c' n (same' ▸ hc')
      omega
    · exact Option.some.inj (own.symm.trans own')
  · rcases observer_step outside setup t m c with
      same | ⟨-, -, new⟩
    · exact Nat.le_trans (h.known c n (same ▸ hc)) (lastId_step outside setup t m)
    · exact Nat.le_of_eq (granted_fresh setup (new ▸ hc)).2.symm

theorem Sound.run (h : t.Sound) (ms : List (Move σ)) : (t.run outside setup ms).Sound := by
  induction ms generalizing t with
  | nil => exact h
  | cons m ms ih => exact ih (h.step m)

theorem lastId_run (ms : List (Move σ)) (t : Traffic σ) :
    t.lastId ≤ (t.run outside setup ms).lastId := by
  induction ms generalizing t with
  | nil => exact Nat.le_refl _
  | cons m ms ih => exact Nat.le_trans (lastId_step outside setup t m) (ih _)

theorem observes_step (h : (t.readers c).observer = some n) (m : Move σ) :
    ((t.step outside setup m).readers c).observer = some n := by
  rcases observer_step outside setup t m c with same | ⟨-, plain, -⟩
  · rw [same, h]
  · rw [plain] at h
    cases h

/-- A reply to an observer is handed over by the connection that is the observer's. -/
theorem observes_of_replied {m : Move σ} {r : Reply}
    (h : .replied c (some n) r ∈ t.noted outside m) : (t.readers c).observer = some n := by
  cases m with
  | read c' line =>
    simp only [noted] at h
    split at h
    · simp only [List.mem_cons, List.mem_append, List.mem_map] at h
      rcases h with h | ⟨e, -, h⟩ | ⟨k, -, h⟩ <;> cases h
    · cases h
  | settle c' s =>
    obtain ⟨e, -, h⟩ := List.mem_map.mp h
    cases h
  | reply c' =>
    simp only [noted] at h
    split at h
    · injection List.mem_singleton.mp h with hc ho
      subst hc
      exact ho.symm
    · cases h
  | leave | take | drain | drop | remove | elsewhere => cases h

/-- Only one connection hands over replies to an observer. -/
theorem replied_by : ∀ (ms : List (Move σ)) {t : Traffic σ}, t.Sound →
    (t.readers c).observer = some n →
      ∀ c' r, .replied c' (some n) r ∈ t.notes outside setup ms → c' = c
  | [], _, _, _, _, _, h => absurd h List.not_mem_nil
  | m :: ms, t, sound, observes, c', r, h => by
    rcases List.mem_append.mp h with h | h
    · exact sound.apart c' c n (observes_of_replied h) observes
    · exact replied_by ms (sound.step m) (observes_step observes m) c' r h

/-- Replies are handed over to observers that there are. -/
theorem replied_known : ∀ (ms : List (Move σ)) {t : Traffic σ}, t.Sound →
    ∀ c r, .replied c (some n) r ∈ t.notes outside setup ms →
      n ≤ (t.run outside setup ms).lastId
  | [], _, _, _, _, h => absurd h List.not_mem_nil
  | m :: ms, t, sound, c, r, h => by
    rcases List.mem_append.mp h with h | h
    · exact Nat.le_trans (sound.known c n (observes_of_replied h)) (lastId_run (m :: ms) t)
    · exact replied_known ms (sound.step m) c r h

/-! ### New observers -/

/-- Where a connection becomes an observer's, there is a new observer. -/
theorem granted_of_joined {m : Move σ} (h : .joined c n ∈ t.noted outside m) :
    t.granted? outside m = some n := by
  cases m with
  | read c' line =>
    simp only [noted] at h
    split at h
    · simp only [List.mem_cons, List.mem_append, List.mem_map] at h
      rcases h with h | ⟨e, -, h⟩ | ⟨k, granted, h⟩
      · cases h
      · cases h
      · cases h
        exact Option.mem_toList.mp granted
    · cases h
  | settle c' s =>
    obtain ⟨e, -, h⟩ := List.mem_map.mp h
    cases h
  | reply c' =>
    simp only [noted] at h
    split at h
    · cases List.mem_singleton.mp h
    · cases h
  | leave | take | drain | drop | remove | elsewhere => cases h

/-- A subscription that is granted makes the connection an observer's. -/
theorem joined_of_subscribe (plain : (t.readers c).observer = none)
    (reading : (t.readers c).stage = .reading) {line : Bytes}
    (subscribes : Command.ofLine line = .ok .subscribe)
    (given : t.daemon.watch.subscribe.2 = .ok n) :
    .joined c n ∈ t.noted outside (.read c line) := by
  have granted : t.granted? outside (.read c line) = some n := by
    simp only [granted?, action?, reading, lineAction?, subscribes, plain, Option.bind_some,
      Watch.Step.granted?, given]
    rfl
  simp [noted, reading, granted]

/-- Only a reader that takes a line subscribes. -/
theorem reading_of_subscribe {m : Move σ} (action : t.action? outside m = some .subscribe) :
    ∃ c line, m = .read c line ∧ (t.readers c).stage = .reading := by
  cases m with
  | read c line =>
    cases stage : (t.readers c).stage with
    | reading => exact ⟨c, line, rfl, stage⟩
    | deciding | answering | ended => simp [action?, stage] at action
  | settle c s =>
    simp only [action?] at action
    split at action <;> cases action
  | reply c =>
    simp only [action?] at action
    split at action
    · simp at action
    · cases action
  | leave c =>
    simp only [action?] at action
    split at action
    · simp at action
    · cases action
  | take | drain | drop | remove | elsewhere => cases action

/-- A connection that becomes an observer's goes on reading. -/
theorem readers_of_joined {m : Move σ} (h : .joined c n ∈ t.noted outside m) :
    (t.step outside setup m).readers c = ⟨some n, .reading⟩ := by
  have own := (by_of_mem_noted h).mp (decide_eq_true rfl)
  obtain ⟨action, given⟩ := subscribe_of_granted (granted_of_joined h)
  obtain ⟨_, line, rfl, reading⟩ := reading_of_subscribe action
  cases own
  obtain ⟨d', r', moved, taken⟩ := step_read outside setup reading line
  rw [moved, readers_put_self]
  rw [action] at taken
  generalize asked : some Watch.Action.subscribe = a? at taken
  cases taken with
  | rejected | unknown | begun => cases asked
  | unwelcome _ _ refused =>
    rw [given] at refused
    cases refused
  | joined _ _ granted =>
    rw [given] at granted
    cases granted
    rw [reading]
  | carried =>
    obtain ⟨r, asks⟩ := ask_of_action? asked.symm
    cases asks

variable (outside t) in
/-- At most one observer is new in a move. -/
theorem joined?_noted (m : Move σ) :
    (t.noted outside m).filterMap Note.joined? = [] ∨ ∃ k, t.granted? outside m = some k ∧
      (t.noted outside m).filterMap Note.joined? = [k] := by
  have told (c : Nat) (e? : Option Event) :
      (e?.toList.map (Note.told c)).filterMap Note.joined? = [] := by
    cases e? <;> rfl
  cases m with
  | read c line =>
    simp only [noted]
    split
    · rw [List.filterMap_cons_none rfl, List.filterMap_append, told, List.nil_append]
      cases granted : t.granted? outside (.read c line) with
      | none => exact .inl rfl
      | some k => exact .inr ⟨k, rfl, rfl⟩
    · exact .inl rfl
  | settle c s => exact .inl (told c _)
  | reply c =>
    simp only [noted]
    split <;> exact .inl rfl
  | leave | take | drain | drop | remove | elsewhere => exact .inl rfl

/-- **Ids are given out in increasing order.** -/
theorem joined?_notes : ∀ (ms : List (Move σ)) (t : Traffic σ),
    (∀ k ∈ (t.notes outside setup ms).filterMap Note.joined?, t.lastId < k) ∧
      ((t.notes outside setup ms).filterMap Note.joined?).Pairwise (· < ·)
  | [], _ => ⟨List.forall_mem_nil _, .nil⟩
  | m :: ms, t => by
    obtain ⟨above, increasing⟩ := joined?_notes ms (t.step outside setup m)
    have later := lastId_step outside setup t m
    rw [notes, List.filterMap_append]
    rcases joined?_noted outside t m with none_new | ⟨k, granted, one⟩
    · rw [none_new, List.nil_append]
      exact ⟨fun i hi => Nat.lt_of_le_of_lt later (above i hi), increasing⟩
    · obtain ⟨fresh, last⟩ := granted_fresh setup granted
      rw [one, List.singleton_append]
      refine ⟨List.forall_mem_cons.mpr ⟨by omega, fun i hi => ?_⟩,
        List.pairwise_cons.mpr ⟨fun i hi => ?_, increasing⟩⟩
      · exact Nat.lt_of_le_of_lt later (above i hi)
      · have := above i hi
        omega

end observers

/-! ### The order of replies -/

section order

variable {outside setup} {t : Traffic σ} {c n : Nat}

variable (setup) in
/-- What is put in the mailbox of a new observer is the first of what is addressed to it, in the
order of the notes, and what it gets is its first line and the first of what is put in. -/
theorem stream_of_joined (sound : t.Sound) {m : Move σ} (h : .joined c n ∈ t.noted outside m)
    (after : List (Move σ)) :
    let joined := t.step outside setup m
    let actions := joined.actions outside setup after
    let arrivals := Watch.arrivals n (joined.daemon.watch.steps actions)
    arrivals <+: ((joined.notes outside setup after).filterMap (Note.letter? n)).map
        Watch.Letter.line ∧
      Watch.received n joined.daemon.watch actions <+: t.daemon.watch.initialLine :: arrivals := by
  intro joined actions arrivals
  obtain ⟨action, given⟩ := subscribe_of_granted (granted_of_joined h)
  have moved : joined.daemon.watch = (t.daemon.watch.act .subscribe).1 := by
    rw [watch_step, action]
    rfl
  have subscribed : (t.daemon.watch.act .subscribe).2 = .subscribed (.ok n) :=
    congrArg Watch.Answer.subscribed given
  have box := Watch.find?_act_subscribe sound.watch subscribed
  rw [← moved] at box
  obtain ⟨-, -, addressed, -⟩ := Watch.arrivals_run actions box
  rw [letters_eq] at addressed
  exact ⟨addressed, Watch.received_isPrefix (sound.step m).watch box actions⟩

variable (outside setup) in
/-- A subscription on the connection of an observer is refused, and the daemon is as it was. -/
theorem step_subscribe_again (observes : (t.readers c).observer = some n)
    (reading : (t.readers c).stage = .reading) {line : Bytes}
    (again : Command.ofLine line = .ok .subscribe) :
    t.step outside setup (.read c line) =
        t.put t.daemon c ⟨some n, .answering (.refusal .alreadySubscribed) false⟩ ∧
      t.noted outside (.read c line) = [.asked c line] := by
  have untouched : t.action? outside (.read c line) = none := by
    simp only [action?, reading, lineAction?, again, observes]
    rfl
  constructor
  · simp only [step, reading, read, again, observes]
    rfl
  · simp only [noted, reading, event?, granted?, untouched]
    rfl

end order

/-- **Replies are ordered.** From where a connection becomes an observer's, what is put in the
mailbox of the observer is the first of the events and of the replies to it, in the order of the
notes; what comes of its requests is one exchange after the other, answered from daemons that the
moves pass by; and nobody else hands over replies to it, then or before. A second subscription is
refused and changes nothing. Ids increase, and the bounds are kept. -/
theorem replies_ordered (config : Config) (outer : σ) :
    let new : Traffic σ := { daemon := .new config outer }
    (∀ before c line n after,
      let start := new.run outside setup before
      let joined := start.step outside setup (.read c line)
      let notes := joined.notes outside setup after
      let actions := joined.actions outside setup after
      let arrivals := Watch.arrivals n (joined.daemon.watch.steps actions)
      .joined c n ∈ start.noted outside (.read c line) →
        arrivals <+: (notes.filterMap (Note.letter? n)).map Watch.Letter.line ∧
        Watch.received n joined.daemon.watch actions <+:
          start.daemon.watch.initialLine :: arrivals ∧
        GoesOn outside setup (joined.Passes outside setup after) c n
          (joined.run outside setup after) (notes.filter (Note.by c)) ∧
        (∀ c' r, .replied c' (some n) r ∈ notes → c' = c) ∧
        ∀ c' r, .replied c' (some n) r ∉ new.notes outside setup before) ∧
    (∀ (t : Traffic σ) c n line, (t.readers c).observer = some n →
      (t.readers c).stage = .reading → Command.ofLine line = .ok .subscribe →
        t.step outside setup (.read c line) =
            t.put t.daemon c ⟨some n, .answering (.refusal .alreadySubscribed) false⟩ ∧
          t.noted outside (.read c line) = [.asked c line] ∧
          (Reply.refusal .alreadySubscribed).code = some "already_subscribed") ∧
    ∀ ms,
      ((new.notes outside setup ms).filterMap Note.joined?).Pairwise (· < ·) ∧
      (new.run outside setup ms).daemon.watch.feed.Bounded
        (max config.broadcast.queueCapacity 1) (max config.broadcast.maxSubscribers 1) := by
  intro new
  have sound : new.Sound := sound_new config outer
  refine ⟨fun before c line n after => ?_, fun t c n line observes reading again => ?_,
    fun ms => ⟨(joined?_notes ms new).2, ?_⟩⟩
  · intro start joined notes actions arrivals becomes
    have orderly : start.Sound := sound.run before
    have reader : joined.readers c = ⟨some n, .reading⟩ := readers_of_joined becomes
    have observes : (joined.readers c).observer = some n := congrArg Reader.observer reader
    obtain ⟨addressed, received⟩ := stream_of_joined setup orderly becomes after
    refine ⟨addressed, received, ?_, ?_, fun c' r earlier => ?_⟩
    · exact exchanges_run after (fun _ passed => passed) reader .reading
    · exact replied_by after (orderly.step _) observes
    · have known : n ≤ start.lastId := replied_known before sound c' r earlier
      have fresh : n = start.lastId + 1 := (granted_fresh setup (granted_of_joined becomes)).1
      omega
  · obtain ⟨refused, noted⟩ := step_subscribe_again outside setup observes reading again
    exact ⟨refused, noted, rfl⟩
  · rw [watch_run]
    exact Watch.bounded_run _ _ _

/-- On a connection a subscription is read twice, and its observer is told so the second time. -/
theorem replies_ordered_twice :
    let outside : Outside Unit := ⟨fun _ => (⟨⟨2024, 3, 1⟩, 43200, 0⟩, ()), fun _ _ _ _ => none,
      fun _ _ w => (.ok .waitingInput, w)⟩
    let setup : Daemon.Setup := ⟨{}, 1⟩
    let new : Traffic Unit := { daemon := .new {} () }
    let line := Command.subscribe.toJson.bytes
    let joined := new.step outside setup (.read 0 line)
    let after := [.read 0 line, .reply 0]
    let refusal := Reply.refusal .alreadySubscribed
    Command.ofLine line = .ok .subscribe ∧
      .joined 0 1 ∈ new.noted outside (.read 0 line) ∧
      joined.notes outside setup after = [.asked 0 line, .replied 0 (some 1) refusal] ∧
      Watch.received 1 joined.daemon.watch (joined.actions outside setup after) <+:
        [new.daemon.watch.initialLine, refusal.line] ∧
      (joined.step outside setup (.read 0 line)).daemon = joined.daemon := by
  intro outside setup new line joined after refusal
  have subscribes : Command.ofLine line = .ok .subscribe := by
    have whole := Command.ofLine_line .subscribe
    rw [Command.accept_line rfl, Command.line, Json.utf8_compact] at whole
    exact whole
  -- that the line is a subscription is all that matters
  clear_value line
  have becomes : .joined 0 1 ∈ new.noted outside (.read 0 line) :=
    joined_of_subscribe rfl rfl subscribes rfl
  have reader : joined.readers 0 = ⟨some 1, .reading⟩ := readers_of_joined becomes
  have observes : (joined.readers 0).observer = some 1 := congrArg Reader.observer reader
  have reading : (joined.readers 0).stage = .reading := congrArg Reader.stage reader
  obtain ⟨streams, again, -⟩ := replies_ordered outside setup {} ()
  obtain ⟨refused, noted, -⟩ := again joined 0 1 line observes reading subscribes
  have notes : joined.notes outside setup after =
      [.asked 0 line, .replied 0 (some 1) refusal] := by
    simp only [after, Traffic.notes, refused, noted]
    simp only [Traffic.noted, readers_put_self]
    rfl
  obtain ⟨addressed, received, -⟩ := streams [] 0 line 1 after becomes
  change _ <+: ((joined.notes outside setup after).filterMap (Note.letter? 1)).map
    Watch.Letter.line at addressed
  rw [notes] at addressed
  refine ⟨subscribes, becomes, notes, ?_, ?_⟩
  · exact received.trans ((List.prefix_append_right_inj [_]).mpr addressed)
  · rw [refused, daemon_put]

end Traffic

end SessionWatch
