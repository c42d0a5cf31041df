/-
# Pending todos

An agent reports its todos as items, and a session keeps each of them as a line
that starts with a marker. The line is made where the hook runs and read where
the daemon is, at the end of a turn. Whatever the contents of the items are,
the end of a turn finds a todo pending exactly if the status of some item says
so, as long as nobody updates the todos in between.

Key definitions: `Roster.Request.UpdatesTodos`.
Key theorems: `Traffic.checkId_of_found`, `Watch.todos_run`,
`Turn.finish_waits_unasked_iff`, `reported_todos_decide`.
-/
import SessionWatch.Proofs.Connection.Exchange
import SessionWatch.Proofs.Hooks.HookArguments
import SessionWatch.Proofs.Turn.Resolution
import SessionWatch.Proofs.Watch.History

namespace SessionWatch

variable {σ : Type}

namespace Roster

/-! ### What registers a session, and what updates its todos -/

/-- The request gives the session other todos; one that is registered has none. -/
def Request.UpdatesTodos (id : String) : Request → Prop
  | .register r => r.id = id
  | .setTodos id' _ => id' = id
  | _ => False

section deeds

variable {id : String} {a : Asked} {d : Deed}

theorem Asked.register_of_deed {r : Registration} (h : a.deed? id = some (.registered r)) :
    a.request = .register r ∧ r.id = id := by
  unfold deed? at h
  split at h <;> try split_ifs at h
  all_goals cases h
  exact ⟨‹_›, ‹_›⟩

/-- Only a request that updates todos does a deed that says what they are. -/
theorem Asked.updatesTodos_of_deed (h : a.deed? id = some d) (todos : d.todos? ≠ none) :
    a.request.UpdatesTodos id := by
  unfold deed? at h
  split at h <;> try split_ifs at h
  all_goals cases h
  all_goals first
    | exact absurd rfl todos
    | rename_i request _ _
      rw [request]
      assumption

/-- Any deed but a registration is done to a session that is there. -/
theorem Deed.registered_or_found {now : Instant} {old : Option Session} {s : Session}
    (h : d.apply now old = some s) : (∃ r, d = .registered r) ∨ old ≠ none := by
  cases d with
  | registered r => exact .inl ⟨r, rfl⟩
  | removed => cases h
  | stateSet | todosSet | touched | flipped | unmuted =>
    refine .inr fun none => ?_
    rw [none] at h
    cases h

/-- A deed that does not say what the todos are leaves them as they are. -/
theorem Deed.todos_apply {now : Instant} {old : Option Session} {s : Session}
    (h : d.apply now old = some s) (silent : d.todos? = none) :
    ∃ t, old = some t ∧ s.todos = t.todos := by
  cases d with
  | registered | todosSet => cases silent
  | removed => cases h
  | stateSet | touched | flipped | unmuted =>
    obtain ⟨t, found, rfl⟩ := Option.map_eq_some_iff.mp h
    exact ⟨t, found, rfl⟩

end deeds

section ask

variable {ro : Roster} {now : Instant} {r : Request} {id : String} {s : Session}

/-- A session that is there after a request was there before, or it was registered. -/
theorem registers_or_found (h : (ro.ask now r).roster.session? id = some s) :
    (∃ reg, r = .register reg ∧ reg.id = id) ∨ ro.session? id ≠ none := by
  rw [session?_ask, Asked.apply] at h
  cases hd : Asked.deed? id ⟨r, now, (ro.ask now r).result⟩ with
  | none =>
    rw [hd] at h
    exact .inr (by rw [show ro.session? id = some s from h]; exact Option.some_ne_none s)
  | some d =>
    rw [hd] at h
    refine (Deed.registered_or_found h).imp_left ?_
    rintro ⟨reg, rfl⟩
    exact ⟨reg, Asked.register_of_deed hd⟩

/-- **A request that does not update the todos of a session leaves them as they are.** -/
theorem todos_ask (keeps : ¬ r.UpdatesTodos id)
    (h : (ro.ask now r).roster.session? id = some s) :
    ∃ t, ro.session? id = some t ∧ s.todos = t.todos := by
  rw [session?_ask, Asked.apply] at h
  cases hd : Asked.deed? id ⟨r, now, (ro.ask now r).result⟩ with
  | none =>
    rw [hd] at h
    exact ⟨s, h, rfl⟩
  | some d =>
    rw [hd] at h
    refine Deed.todos_apply h ?_
    by_contra todos
    exact keeps (Asked.updatesTodos_of_deed hd todos)

end ask

end Roster

/-! ### Todos along a run -/

namespace Watch

variable {w : Watch} {id : String} {s : Session}

theorem todos_act {a : Action} (keeps : ∀ r now, a = .ask r now → ¬ r.UpdatesTodos id)
    (h : (w.act a).1.roster.session? id = some s) :
    ∃ t, w.roster.session? id = some t ∧ s.todos = t.todos := by
  cases a with
  | ask r now =>
    rw [roster_act_ask] at h
    exact Roster.todos_ask (keeps r now rfl) h
  | subscribe | sendTo | remove | take | drain | drop =>
    rw [roster_act (by simp)] at h
    exact ⟨s, h, rfl⟩

/-- **The todos of a session stay as they are until they are updated.** -/
theorem todos_run : ∀ {as : List Action} {w : Watch},
    (∀ r now, .ask r now ∈ as → ¬ r.UpdatesTodos id) →
      (w.run as).1.roster.session? id = some s →
      ∃ t, w.roster.session? id = some t ∧ s.todos = t.todos
  | [], _, _, h => ⟨s, h, rfl⟩
  | a :: as, w, keeps, h => by
    obtain ⟨t, found, same⟩ := todos_run (w := (w.act a).1)
      (fun r now hmem => keeps r now (List.mem_cons_of_mem _ hmem)) h
    obtain ⟨u, start, kept⟩ := todos_act
      (fun r now ha => keeps r now (ha ▸ List.mem_cons_self)) found
    exact ⟨u, start, same.trans kept⟩

end Watch

/-! ### The ids of sessions that are there -/

namespace Traffic

variable {outside : Outside σ} {setup : Daemon.Setup} {t : Traffic σ} {id : String}

/-- What a line registers has an id that the daemon takes. -/
theorem checkId_of_lineAction? {now now' : Instant} {observer : Option Nat} {line : Bytes}
    {r : Registration} (h : lineAction? now observer line = some (.ask (.register r) now')) :
    Command.checkId r.id = .ok () := by
  have read : Command.ofLine line = .ok (.register r) := by
    unfold lineAction? at h
    split at h
    · cases h
    · cases h
    · rename_i c read _
      rw [read]
      cases c <;> cases h
      rfl
  unfold Command.ofLine at read
  split at read
  · cases read
  · have valid := Command.check_of_accept read
    simp only [Command.check, Command.targetId, Option.elim] at valid
    cases hid : Command.checkId r.id with
    | ok u => rfl
    | error p =>
      rw [hid] at valid
      cases valid

/-- Every session that is there has an id that the daemon takes. -/
def Admitted (t : Traffic σ) : Prop :=
  ∀ id, t.daemon.watch.roster.session? id ≠ none → Command.checkId id = .ok ()

theorem Admitted.step (h : t.Admitted) (m : Move σ) : (t.step outside setup m).Admitted := by
  intro id found
  rw [watch_step] at found
  cases haction : t.action? outside m with
  | none =>
    rw [haction] at found
    exact h id found
  | some a =>
    rw [haction] at found
    cases a with
    | ask r now =>
      obtain ⟨s, there⟩ := Option.ne_none_iff_exists'.mp found
      rw [Watch.after, Option.elim, Watch.roster_act_ask] at there
      obtain ⟨reg, rfl, rfl⟩ | before := Roster.registers_or_found there
      · -- only a line that was read can register a session
        cases m with
        | read c line =>
          rw [action?] at haction
          split at haction
          · exact checkId_of_lineAction? haction
          · cases haction
        | settle c s =>
          rw [action?] at haction
          split at haction <;> cases haction
        | reply c | leave c =>
          rw [action?] at haction
          split at haction
          · obtain ⟨_, _, heq⟩ := Option.map_eq_some_iff.mp haction
            cases heq
          · cases haction
        | take | drain | drop | remove | elsewhere => cases haction
      · exact h id before
    | subscribe | sendTo | remove | take | drain | drop =>
      rw [Watch.after, Option.elim, Watch.roster_act (by simp)] at found
      exact h id found

theorem Admitted.run (h : t.Admitted) (ms : List (Move σ)) :
    (t.run outside setup ms).Admitted := by
  induction ms generalizing t with
  | nil => exact h
  | cons m ms ih => exact ih (h.step m)

/-- **Every session that is there has an id that the daemon takes.** -/
theorem checkId_of_found (config : Config) (start : σ) (ms : List (Move σ)) {e : Roster.Entry}
    (found : (({ daemon := .new config start } : Traffic σ).run outside setup
      ms).daemon.watch.roster.find? id = some e) : Command.checkId id = .ok () := by
  have new : ({ daemon := .new config start } : Traffic σ).Admitted :=
    fun id there => absurd rfl there
  exact new.run ms id (by rw [Roster.session?, found]; exact Option.some_ne_none _)

variable (outside setup) in
theorem sound_watch (config : Config) (start : σ) (ms : List (Move σ)) :
    (({ daemon := .new config start } : Traffic σ).run outside setup ms).daemon.watch.Sound := by
  rw [watch_run]
  exact Watch.sound_run _ _ _

variable (outside setup) in
/-- **A list of todos that is read for a session that is there becomes the todos of the session.** -/
theorem step_todos {n : Nat} (reading : (t.readers n).stage = .reading) {line : Bytes}
    {todos : List String} (h : Command.ofLine line = .ok (.todos id todos)) {e : Roster.Entry}
    (found : t.daemon.watch.roster.find? id = some e) :
    let told := t.step outside setup (.read n line)
    (told.readers n).stage = .answering .done false ∧
      told.daemon.watch.roster.find? id = some { e with session := { e.session with
        todos := todos
        updatedAt := (outside.now t.daemon.outer).1
        seenAt := (outside.now t.daemon.outer).1 } } := by
  intro told
  have carried : told = t.put (t.daemon.carryOut outside setup (.todos id todos)).daemon n
      { t.readers n with
        stage := .answering (t.daemon.carryOut outside setup (.todos id todos)).reply false } := by
    simp only [told, step, reading, read, h]
  rw [carried, readers_put_self, daemon_put]
  simp [Daemon.carryOut, Daemon.changeNow, Daemon.change, Watch.commit, Roster.setTodos, found,
    Roster.find?_put]

end Traffic

/-! ### The end of a turn -/

namespace Turn

theorem decide_of_done {read : TranscriptReader} {max : Nat} {s : Session} {t : TurnEnd}
    (done : pendingCount s.todos = 0) : decide read max s t = .settled .idle .noMessage ∨
      ∃ q, decide read max s t = .ask q := by
  rw [decide, if_neg (by omega)]
  cases messageText? read max s.agent t with
  | none => exact .inl rfl
  | some text => exact .inr ⟨_, rfl⟩

/-- **A session is left waiting without a question exactly if a todo of it is pending.** -/
theorem finish_waits_unasked_iff (now : σ → Instant × σ) (transcript : σ → TranscriptReader)
    (backends : Backends σ) (config : ClassifierConfig) {w : Watch} (outer : σ) {t : TurnEnd}
    {e : Roster.Entry} (found : w.roster.find? t.id = some e) (id : e.session.id = t.id) :
    let finished := finish (.recording now transcript backends config) config (w, outer, []) t
    finished.2.2.2 = [] ∧ finished.1.map (·.2.resolved) = .ok .waitingInput ↔
      0 < pendingCount e.session.todos := by
  intro finished
  have settled {s : State} {why : Reason}
      (decided : decide (transcript outer) config.maxMessageChars e.session t = .settled s why) :
      finished.2.2.2 = [] ∧ finished.1.map (·.2.resolved) = .ok s := by
    obtain ⟨unasked, -, put⟩ := finish_settled now transcript backends config found id decided
    rw [found] at put
    obtain ⟨why, answer, -⟩ := put
    exact ⟨unasked, by rw [show finished.1 = _ from answer]; rfl⟩
  constructor
  · rintro ⟨unasked, waits⟩
    refine Nat.pos_of_ne_zero fun done => ?_
    rcases decide_of_done done with decided | ⟨q, decided⟩
    · cases (settled decided).2.symm.trans waits
    · obtain ⟨asked, -⟩ := finish_asked now transcript backends config found id decided
      cases (show finished.2.2.2 = _ from asked).symm.trans unasked
  · intro pending
    exact settled (if_pos pending)

end Turn

/-! ### From the report to the end of a turn -/

/-- **Todos mean the same where they are reported and where a turn ends.** A session is there after
any run of a daemon, and the input of a hook is a report of some items, whatever their contents
are. Then the hook has a command to send. Its line comes off a connection as it is unless it is
too long, and is taken for that command. Whichever reader takes it, the session has one todo for
each item after that, in order: the marker of the item's status and its content. As many of them
are pending as there are items whose status is not that of a completed one.

As long as nobody updates the todos of the session, these are its todos. So the end of a turn
leaves the session waiting without a question exactly if some item is not completed. -/
theorem reported_todos_decide (outside : Outside σ) (setup : Daemon.Setup) (config : Config)
    (start : σ) (before : List (Traffic.Move σ)) {id : String} {e : Roster.Entry}
    (found : (({ daemon := .new config start } : Traffic σ).run outside setup
      before).daemon.watch.roster.find? id = some e)
    {input : Bytes} {text : String} (given : Text.ofUtf8? (input.take maxHookInputBytes) = some text)
    {report : Json} (parsed : Json.parse (Text.utf8 text) = .ok report) {items : List TodoItem}
    (listed : TodoItem.ofHook report.canonical = .ok items) :
    let todos := items.map fun i =>
      (if i.status = "completed" then "[✓]" else if i.status = "in_progress" then "[→]" else "[ ]")
        ++ " " ++ i.content
    let command : Command := .todos id todos
    let line := Text.utf8 command.line
    let arrived := ({ daemon := .new config start } : Traffic σ).run outside setup before
    HookCall.todo.command? id input = .ok (some command) ∧
    (line.length ≤ maxLineBytes → ∀ (as : List Arrival) (rest : Bytes),
      Carries as (Client.wireLine command ++ rest) → ∃ as', Carries as' rest ∧
        ∀ later, readLine [] (as ++ later) = (.line line, as' ++ later)) ∧
    Command.ofLine line = .ok command ∧
    pendingCount todos = items.countP (fun i => i.status ≠ "completed") ∧
    ∀ n, (arrived.readers n).stage = .reading →
      let told := arrived.step outside setup (.read n line)
      (told.readers n).stage = .answering .done false ∧
      (∃ e', told.daemon.watch.roster.find? id = some e' ∧ e'.session.todos = todos) ∧
      ∀ after : List (Traffic.Move σ),
        (∀ r now, .ask r now ∈ told.actions outside setup after → ¬ r.UpdatesTodos id) →
        let watch := (told.run outside setup after).daemon.watch
        ∀ e', watch.roster.find? id = some e' →
          e'.session.todos = todos ∧
          ∀ (now : σ → Instant × σ) (transcript : σ → TranscriptReader) (backends : Backends σ)
            (classifier : ClassifierConfig) (outer : σ) (t : TurnEnd), t.id = id →
            let finished := Turn.finish (.recording now transcript backends classifier) classifier
              (watch, outer, []) t
            (finished.2.2.2 = [] ∧ finished.1.map (·.2.resolved) = .ok .waitingInput ↔
              ∃ i ∈ items, i.status ≠ "completed") := by
  intro todos command line arrived
  have sent : HookCall.todo.command? id input = .ok (some command) := by
    simp only [HookCall.command?, HookCall.inputText, given, HookCall.todosCommand, parsed, listed]
    rfl
  obtain ⟨-, carried, taken, -⟩ := HookCall.accepted_of_command?
    (Traffic.checkId_of_found config start before found) sent
  have count : pendingCount todos = items.countP (fun i => i.status ≠ "completed") :=
    pendingCount_lines items
  refine ⟨sent, carried, taken, count, fun n reading => ?_⟩
  intro told
  obtain ⟨answered, put⟩ := Traffic.step_todos outside setup reading taken found
  refine ⟨answered, ⟨_, put, rfl⟩, fun after quiet => ?_⟩
  intro watch e' there
  have kept : e'.session.todos = todos := by
    have session : watch.roster.session? id = some e'.session := by rw [Roster.session?, there]; rfl
    rw [show watch = _ from Traffic.watch_run after told] at session
    obtain ⟨s, then_there, same⟩ := Watch.todos_run quiet session
    rw [Roster.session?, put] at then_there
    cases then_there
    exact same
  refine ⟨kept, ?_⟩
  rintro now transcript backends classifier outer t rfl finished
  have sound : watch.Sound := by
    have := Traffic.sound_watch outside setup config start
      (before ++ .read n line :: after)
    rwa [Traffic.run_append] at this
  refine (Turn.finish_waits_unasked_iff now transcript backends classifier outer there
    (sound.roster.id_eq there)).trans ?_
  rw [kept, count, List.countP_pos_iff]
  simp

/-- One item imitates the marker of a completed one, and the other is completed and has no
content. A todo is pending, so nothing is asked when the turn ends. -/
theorem reported_todos_decide_imitation :
    let noon : Instant := ⟨⟨2024, 3, 1⟩, 43200, 0⟩
    let outside : Outside Unit :=
      ⟨fun s => (noon, s), fun _ _ _ _ => none, fun _ _ w => (.ok .idle, w)⟩
    let setup : Daemon.Setup := ⟨{}, 7⟩
    let registered := Text.utf8 (Command.register ⟨"one", "", "/src", .claude⟩).line
    let arrived := ({ daemon := .new {} () } : Traffic Unit).run outside setup
      [.read 0 registered, .reply 0]
    let text :=
      "\x7b\"todos\":[\x7b\"content\":\"[✓] \\t\"\x7d,\x7b\"status\":\"completed\"\x7d]\x7d"
    let command : Command := .todos "one" ["[ ] [✓] \t", "[✓] "]
    let told := arrived.step outside setup (.read 0 (Text.utf8 command.line))
    HookCall.todo.command? "one" (Text.utf8 text) = .ok (some command) ∧
    (∃ e, told.daemon.watch.roster.find? "one" = some e ∧
      e.session.todos = ["[ ] [✓] \t", "[✓] "]) ∧
    let finished := Turn.finish (.recording outside.now outside.transcript
      (fun _ _ _ w => (.ok .idle, w)) {}) {} (told.daemon.watch, (), []) ⟨"one", none, none⟩
    finished.2.2.2 = [] ∧ finished.1.map (·.2.resolved) = .ok .waitingInput := by
  intro noon outside setup registered arrived text command told
  let report : Json := .object [("todos", .array [.object [("content", .string "[✓] \t")],
    .object [("status", .string "completed")]])]
  have register : Command.ofLine registered = .ok (.register ⟨"one", "", "/src", .claude⟩) := by
    rw [Command.ofLine_line]
    exact Command.accept_line rfl
  -- from here on only what the line is read as counts
  clear_value registered
  have waiting : arrived.readers 0 = ⟨none, .reading⟩ ∧
      ∃ e, arrived.daemon.watch.roster.find? "one" = some e := by
    simp only [arrived, Traffic.run, List.foldl_cons, List.foldl_nil, Traffic.step, Traffic.read,
      register]
    exact ⟨rfl, _, rfl⟩
  obtain ⟨reading, e, found⟩ := waiting
  have given : Text.ofUtf8? ((Text.utf8 text).take maxHookInputBytes) = some text := by
    rw [List.take_of_length_le (by decide), Text.ofUtf8?_utf8]
  have parsed : Json.parse (Text.utf8 text) = .ok report := rfl
  have listed : TodoItem.ofHook report.canonical = .ok [⟨"[✓] \t", ""⟩, ⟨"", "completed"⟩] := rfl
  obtain ⟨sent, -, -, -, decides⟩ := reported_todos_decide outside setup {} ()
    [.read 0 registered, .reply 0] found given parsed listed
  obtain ⟨-, ⟨e', put, todos⟩, later⟩ := decides 0 (by rw [reading])
  refine ⟨sent, ⟨e', put, todos⟩, ?_⟩
  obtain ⟨-, waits⟩ := later [] (fun _ _ h => absurd h List.not_mem_nil) e' put
  exact (waits outside.now outside.transcript (fun _ _ _ w => (.ok .idle, w)) {} ()
    ⟨"one", none, none⟩ rfl).mpr ⟨⟨"[✓] \t", ""⟩, by decide, by decide⟩

end SessionWatch
