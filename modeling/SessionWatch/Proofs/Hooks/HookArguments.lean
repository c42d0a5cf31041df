/-
# Which session a hook reports about

The id of a session stands among the arguments of the wrapper as a positional.
An id that the daemon takes may look like an option there, and then the
wrapper asks nothing of the daemon. Any other id arrives as it is: what the
wrapper sends is a command about that very session.

Key definitions: `intendedCall`, `Client.recorded`.
Key theorems: `Program.readArguments_args`, `Program.readArguments_option`,
`hook_reports_iff_positional`.
-/
import SessionWatch.Program.Run
import SessionWatch.Proofs.Hooks.HookLine

namespace SessionWatch

open Program (Grammar Given Parsed Reading isOption readArguments)

/-! ### Positionals and options -/

namespace Program.Grammar

variable {g : Grammar} {given : Given} {arg : String}

/-- Only an argument that is an option has the form of a long one. -/
theorem longOption?_eq_none (h : isOption arg = false) : longOption? arg = none := by
  unfold isOption at h
  unfold longOption?
  split
  · next heq => simp [heq] at h
  · rfl

/-- What does not look like an option is the next positional. -/
theorem read_positional (h : isOption arg = false) {given' : Given}
    (add : g.addPositional? given arg = some given') (rest : List String) :
    g.read given (arg :: rest) = g.read given' rest := by
  have hyphens : arg ≠ "--" := by
    rintro rfl
    cases h
  rw [read, if_neg hyphens, longOption?_eq_none h]
  simp [h, add]

theorem length_addPositional? {given' : Given} (h : g.addPositional? given arg = some given') :
    given'.positionals.length = given.positionals.length + 1 := by
  unfold addPositional? at h
  split at h
  · cases h
  · split at h
    · cases h
      simp
    · cases h

/-- Behind a lone pair of hyphens every argument counts once. -/
theorem length_readPositionals : ∀ {args : List String} {given given' : Given},
    g.readPositionals given args = .ok given' →
      given'.positionals.length = given.positionals.length + args.length
  | [], _, _, h => by
    cases h
    rfl
  | arg :: rest, given, given', h => by
    rw [readPositionals] at h
    split at h
    · cases h
    · next one hadd =>
      rw [length_readPositionals h, length_addPositional? hadd, List.length_cons]
      omega

/-- A subcommand that takes positionals only takes no option. -/
theorem read_option (options : g.options = []) (flags : g.flags = []) (h : isOption arg = true)
    (hyphens : arg ≠ "--") (given : Given) (rest : List String) :
    g.read given (arg :: rest) = .help ∨ g.read given (arg :: rest) = .misuse := by
  rw [read, if_neg hyphens]
  split
  · next name attached _ =>
    cases attached with
    | some value => simp [options]
    | none =>
      by_cases help : name = "help" <;> simp [options, flags, help]
  · by_cases help : arg.toList[1]? = some 'h' <;> simp [h, help]

/-- A subcommand that takes positionals only cannot do without the one in the place of which
something stands that looks like an option. -/
theorem readAll_option (options : g.options = []) (flags : g.flags = [])
    (h : isOption arg = true) {rest : List String} (short : rest.length < g.positionals.length) :
    g.readAll (arg :: rest) = .help ∨ g.readAll (arg :: rest) = .misuse := by
  unfold readAll
  by_cases hyphens : arg = "--"
  · rw [read, if_pos hyphens]
    cases hread : g.readPositionals {} rest with
    | ok given =>
      have count : given.positionals.length = rest.length := by
        simpa using length_readPositionals hread
      exact .inr (if_pos (count ▸ short))
    | help => exact .inl rfl
    | misuse => exact .inr rfl
  · rcases read_option options flags h hyphens {} rest with hread | hread
    · exact .inl (by rw [hread])
    · exact .inr (by rw [hread])

end Program.Grammar

/-! ### The arguments of a call -/

namespace Program

variable {id : String}

/-- What follows a subcommand decides what is asked for. -/
theorem readArguments_cons {name : String} (rest : List String) {grammar : Grammar}
    {action : Given → Option Action} (bare : isOption name = false) (other : name ≠ "help")
    (h : subcommands.lookup name = some (grammar, action)) :
    (∀ given a, grammar.readAll rest = .ok given → action given = some a →
      readArguments (name :: rest) = .run name a) ∧
    (grammar.readAll rest = .help → readArguments (name :: rest) = .help) ∧
    (grammar.readAll rest = .misuse → readArguments (name :: rest) = .misuse) := by
  have version : name ≠ "--version" := by
    rintro rfl
    cases bare
  have help : name ≠ "--help" := by
    rintro rfl
    cases bare
  rw [readArguments, if_neg version, if_neg help, bare, if_neg Bool.false_ne_true, if_neg other, h]
  refine ⟨fun given a hread haction => ?_, fun hread => ?_, fun hread => ?_⟩
  · simp only [hread, haction]
  · simp only [hread]
  · simp only [hread]

/-- **An id that does not look like an option is taken for the session of the call.** -/
theorem readArguments_args (call : HookCall) (h : isOption id = false) :
    readArguments (call.args id) = .run (call.words id).1 (.hook call id) := by
  have one (g : Grammar) {admits : List (String → Bool)} (hg : g.positionals = anyText :: admits)
      (rest : List String) : g.read {} (id :: rest) = g.read ⟨[id], [], []⟩ rest :=
    Grammar.read_positional h (by simp [Grammar.addPositional?, hg, anyText]) rest
  cases call with
  | state s =>
    have bare : isOption s.name = false := by cases s <;> decide
    have known : State.naming.find? s.name = some s := by cases s <;> rfl
    change readArguments ["_hook-state", id, s.name] = .run "_hook-state" (.hook (.state s) id)
    refine (readArguments_cons [id, s.name] (by decide) (by decide) rfl).1 ⟨[id, s.name], [], []⟩ _
      ?_ ?_
    · have add : Grammar.addPositional? { positionals := [anyText, isState] } ⟨[id], [], []⟩ s.name =
          some ⟨[id, s.name], [], []⟩ := by
        simp [Grammar.addPositional?, isState, known]
      rw [Grammar.readAll, one _ rfl, Grammar.read_positional bare add]
      rfl
    · simp [known]
  | stop =>
    change readArguments ["_hook-stop", id] = .run "_hook-stop" (.hook .stop id)
    refine (readArguments_cons [id] (by decide) (by decide) rfl).1 ⟨[id], [], []⟩ _ ?_ rfl
    rw [Grammar.readAll, one _ rfl]
    rfl
  | todo =>
    change readArguments ["_hook-todo", id] = .run "_hook-todo" (.hook .todo id)
    refine (readArguments_cons [id] (by decide) (by decide) rfl).1 ⟨[id], [], []⟩ _ ?_ rfl
    rw [Grammar.readAll, one _ rfl]
    rfl

/-- **An id that looks like an option is not taken for a session.** -/
theorem readArguments_option (call : HookCall) (h : isOption id = true) :
    readArguments (call.args id) = .help ∨ readArguments (call.args id) = .misuse := by
  have refused (name : String) {rest : List String} {grammar : Grammar}
      {action : Given → Option Action} (bare : isOption name = false) (other : name ≠ "help")
      (hname : subcommands.lookup name = some (grammar, action)) (options : grammar.options = [])
      (flags : grammar.flags = []) (short : rest.length < grammar.positionals.length) :
      readArguments (name :: id :: rest) = .help ∨ readArguments (name :: id :: rest) = .misuse :=
    (Grammar.readAll_option options flags h short).imp
      (readArguments_cons (id :: rest) bare other hname).2.1
      (readArguments_cons (id :: rest) bare other hname).2.2
  cases call with
  | state s =>
    exact refused "_hook-state" (by decide) (by decide) rfl rfl rfl (Nat.lt_succ_self 1)
  | stop => exact refused "_hook-stop" (by decide) (by decide) rfl rfl rfl Nat.zero_lt_one
  | todo => exact refused "_hook-todo" (by decide) (by decide) rfl rfl rfl Nat.zero_lt_one

end Program

/-! ### What the daemon gets -/

/-- What each hook is there for, by its event and its matcher. -/
def intendedCall (event matcher : String) : Option HookCall :=
  if event = "UserPromptSubmit" then some (.state .working)
  else if event = "PreToolUse" then some (.state .waitingInput)
  else if event = "PermissionRequest" then some (.state .pendingApproval)
  else if event = "PostToolUse" then
    some (if matcher = "TodoWrite" then .todo else .state .working)
  else if event = "Stop" then some .stop
  else none

theorem intendedCall_of_mem : ∀ c ∈ hookCalls, intendedCall c.1 c.2.1 = some c.2.2 := by
  decide

namespace Client

variable {σ : Type}

/-- A client that also keeps the lines that it has sent. -/
def recorded (client : Client σ) : Client (σ × List Bytes) where
  enabled := client.enabled
  socket := client.socket
  reach socket timeoutMs line outer :=
    let (contact, s) := client.reach socket timeoutMs line outer.1
    (contact, s, outer.2 ++ [line])

variable (client : Client σ) (c : Command) (timeoutMs : Nat)

/-- There is a way to the daemon. -/
def CanReach : Prop := client.enabled = true ∧ client.socket.isSome = true

instance : Decidable client.CanReach := inferInstanceAs (Decidable (_ ∧ _))

/-- The line of a command is sent if there is a way to the daemon. -/
theorem outer_send_recorded (outer : σ × List Bytes) :
    (client.recorded.send c timeoutMs outer).outer.2 =
      outer.2 ++ List.replicate (if client.CanReach then 1 else 0) (wireLine c) := by
  unfold send exchange
  cases henabled : client.enabled with
  | false => simp [recorded, CanReach, henabled]
  | true =>
    cases hsocket : client.socket with
    | none => simp [recorded, CanReach, henabled, hsocket]
    | some path => simp [recorded, CanReach, henabled, hsocket]

/-- The line of a command is the only one that is sent for it, perhaps twice. -/
theorem outer_sendWithRetry_recorded (outer : σ × List Bytes) :
    ∃ n, (client.recorded.sendWithRetry c timeoutMs outer).outer.2 =
        outer.2 ++ List.replicate n (wireLine c) ∧ (client.CanReach → 0 < n) := by
  have first := client.outer_send_recorded c timeoutMs outer
  generalize hk : (if client.CanReach then 1 else 0) = k at first
  have reached : client.CanReach → 0 < k := fun h => by rw [← hk, if_pos h]; exact Nat.one_pos
  unfold sendWithRetry
  dsimp only
  split
  · -- no connection was found, and the same line is sent once more
    have second := client.outer_send_recorded c timeoutMs
      (client.recorded.send c timeoutMs outer).outer
    rw [hk, first, List.append_assoc, ← List.replicate_add] at second
    exact ⟨k + k, second, fun h => Nat.add_pos_left (reached h) k⟩
  · exact ⟨k, first, reached⟩

end Client

namespace HookCall

variable {call : HookCall} {id : String} {input : Bytes} {c : Command}

/-- The commands that hooks send. -/
theorem cases_of_command? (h : call.command? id input = .ok (some c)) :
    (∃ s, c = .state id s) ∨ (∃ path, c = .stop ⟨id, path, none⟩) ∨ ∃ ts, c = .todos id ts := by
  cases call with
  | state s =>
    cases h
    exact .inl ⟨s, rfl⟩
  | stop =>
    simp only [command?] at h
    split at h
    · cases h
    · unfold stopCommand? at h
      dsimp only at h
      split at h
      · cases h
      · split at h
        · cases h
        · cases h
          exact .inr (.inl ⟨_, rfl⟩)
  | todo =>
    simp only [command?] at h
    split at h
    · cases h
    · unfold todosCommand at h
      split at h
      · cases h
      · split at h
        · cases h
        · cases h
          exact .inr (.inr ⟨_, rfl⟩)

/-- What a hook reports is about its session. -/
theorem targetId_of_command? (h : call.command? id input = .ok (some c)) :
    c.targetId = some id := by
  rcases cases_of_command? h with ⟨s, rfl⟩ | ⟨path, rfl⟩ | ⟨ts, rfl⟩ <;> rfl

/-- What a hook reports about a session that the daemon takes is in order. -/
theorem check_of_command? (accepted : Command.checkId id = .ok ())
    (h : call.command? id input = .ok (some c)) : c.check = .ok () := by
  rcases cases_of_command? h with ⟨s, rfl⟩ | ⟨path, rfl⟩ | ⟨ts, rfl⟩ <;>
    simp [Command.check, Command.targetId, accepted]

/-- **The daemon reads what a hook reports as a line, and takes it for that command, which is about
the session of the hook.** -/
theorem accepted_of_command? (accepted : Command.checkId id = .ok ())
    (h : call.command? id input = .ok (some c)) :
    Client.wireLine c = Text.utf8 c.line ++ [0x0A] ∧
      ((Text.utf8 c.line).length ≤ maxLineBytes → ∀ (as : List Arrival) (rest : Bytes),
        Carries as (Client.wireLine c ++ rest) → ∃ as', Carries as' rest ∧
          ∀ later, readLine [] (as ++ later) = (.line (Text.utf8 c.line), as' ++ later)) ∧
      Command.ofLine (Text.utf8 c.line) = .ok c ∧ c.targetId = some id := by
  have wire : Client.wireLine c = Text.utf8 c.line ++ [0x0A] := by
    rw [Client.wireLine, Text.utf8_append]
    rfl
  refine ⟨wire, fun short as rest carried => ?_, ?_, targetId_of_command? h⟩
  · rw [wire, List.append_assoc] at carried
    exact carried.readLine_line c.not_mem_line short
  · rw [c.ofLine_line]
    exact Command.accept_line (check_of_command? accepted h)

/-- Only the line of what is to be reported is sent. -/
theorem outer_deliver_recorded {σ : Type} (call : HookCall) (client : Client σ) (id : String)
    (input : Bytes) (outer : σ) :
    ((∀ c, call.command? id input ≠ .ok (some c)) →
      (call.deliver client.recorded id input (outer, [])).outer.2 = []) ∧
    ∀ c, call.command? id input = .ok (some c) →
      ∃ n, (call.deliver client.recorded id input (outer, [])).outer.2 =
        List.replicate n (Client.wireLine c) ∧ (client.CanReach → 0 < n) := by
  refine ⟨fun none => ?_, fun c h => ?_⟩
  · unfold deliver
    split
    · rfl
    · rfl
    · next c h => exact absurd h (none c)
  · have sent := client.outer_sendWithRetry_recorded c call.timeoutMs (outer, [])
    rw [deliver, h]
    simpa using sent

end HookCall

/-! ### From the hook to the daemon -/

/-- **A hook reports about its session exactly if the id does not look like an option.** For every
id that the daemon takes, a shell that carries out the line of a hook calls the wrapper with
arguments that are read as the intended call for that id if the id is no option. What the wrapper
then sends is the line of a command about that session, which the daemon takes, and it sends it if
there is something to report and a way to the daemon. If the id looks like an option, the
arguments are refused or answered with a text about the program, and nothing is sent. -/
theorem hook_reports_iff_positional {id socket wrapper event matcher : String} {h : HookCommand}
    (accepted : Command.checkId id = .ok ())
    (generated : (event, matcher, h) ∈ (HookSettings.forSession id socket wrapper).commands) :
    ∃ (call : HookCall) (words : List Shell.Word) (args : List String),
      intendedCall event matcher = some call ∧
      Shell.Program.ofText h.command = ⟨[.command 1 words []], true⟩ ∧
      (∀ (depth : Nat) (whole : Bool) (st : Shell.State), st.isOn = true →
        Shell.fieldsOf (depth + 3) whole (Shell.splitSettings words).2 st =
          (wrapperName wrapper :: args, st)) ∧
      (readArguments args = .run (call.words id).1 (.hook call id) ↔ isOption id = false) ∧
      ∀ (σ : Type) (place : Operator.Place) (client : Client σ) (input : Bytes) (files : Files)
        (outer : σ),
        let sent := (Program.run place client.recorded input files (outer, []) args).outer.2
        (isOption id = true → sent = []) ∧
        (isOption id = false → ∀ line ∈ sent, ∃ c : Command,
          call.command? id input = .ok (some c) ∧ line = Text.utf8 c.line ++ [0x0A] ∧
          ((Text.utf8 c.line).length ≤ maxLineBytes → ∀ (as : List Arrival) (rest : Bytes),
            Carries as (line ++ rest) → ∃ as', Carries as' rest ∧
              ∀ later, readLine [] (as ++ later) = (.line (Text.utf8 c.line), as' ++ later)) ∧
          Command.ofLine (Text.utf8 c.line) = .ok c ∧ c.targetId = some id) ∧
        (isOption id = false → client.CanReach → ∀ c : Command,
          call.command? id input = .ok (some c) → Client.wireLine c ∈ sent) := by
  rw [HookSettings.commands_forSession] at generated
  obtain ⟨⟨event', matcher', call⟩, hcall, heq⟩ := List.mem_map.mp generated
  cases heq
  refine ⟨call, call.shellWords id socket wrapper, call.args id, intendedCall_of_mem _ hcall,
    call.ofText_line id socket wrapper, fun depth whole st on => ?_, ⟨fun hread => ?_,
    Program.readArguments_args call⟩, fun σ place client input files outer => ?_⟩
  · rw [call.splitSettings_shellWords]
    exact call.fieldsOf_tail id socket wrapper depth whole on
  · by_contra hoption
    rw [Bool.not_eq_false] at hoption
    rcases Program.readArguments_option call hoption with hother | hother <;>
      rw [hother] at hread <;> cases hread
  intro sent
  have delivered (hoption : isOption id = false) :
      sent = (call.deliver client.recorded id input (outer, [])).outer.2 := by
    simp only [sent, Program.run, Program.readArguments_args call hoption, Program.perform]
  refine ⟨fun hoption => ?_, fun hoption line hline => ?_, fun hoption reach c hc => ?_⟩
  · rcases Program.readArguments_option call hoption with hread | hread <;>
      simp only [sent, Program.run, hread]
  · rw [delivered hoption] at hline
    obtain ⟨silent, speaks⟩ := call.outer_deliver_recorded client id input outer
    by_cases hc : ∃ c, call.command? id input = .ok (some c)
    · obtain ⟨c, hc⟩ := hc
      obtain ⟨n, hsent, -⟩ := speaks c hc
      rw [hsent] at hline
      rw [List.eq_of_mem_replicate hline]
      exact ⟨c, hc, HookCall.accepted_of_command? accepted hc⟩
    · rw [silent (not_exists.mp hc)] at hline
      cases hline
  · obtain ⟨n, hsent, positive⟩ := (call.outer_deliver_recorded client id input outer).2 c hc
    rw [delivered hoption, hsent]
    exact List.mem_replicate.mpr ⟨Nat.ne_of_gt (positive reach), rfl⟩

/-- A session whose id has a quote is reported about, one whose id looks like an option is not. -/
theorem hook_reports_iff_positional_apart :
    Command.checkId "it's" = .ok () ∧ Command.checkId "-x" = .ok () ∧
    (∃ h args, ("Stop", "*", h) ∈ (HookSettings.forSession "it's" "/s" "w").commands ∧
      (∃ words, Shell.Program.ofText h.command = ⟨[.command 1 words []], true⟩ ∧
        ∀ st : Shell.State, st.isOn = true →
          Shell.fieldsOf 3 false (Shell.splitSettings words).2 st = ("w" :: args, st)) ∧
      readArguments args = .run "_hook-stop" (.hook .stop "it's")) ∧
    ∃ h args, ("Stop", "*", h) ∈ (HookSettings.forSession "-x" "/s" "w").commands ∧
      (∃ words, Shell.Program.ofText h.command = ⟨[.command 1 words []], true⟩ ∧
        ∀ st : Shell.State, st.isOn = true →
          Shell.fieldsOf 3 false (Shell.splitSettings words).2 st = ("w" :: args, st)) ∧
      readArguments args ≠ .run "_hook-stop" (.hook .stop "-x") := by
  have quote : Command.checkId "it's" = .ok () := rfl
  have hyphen : Command.checkId "-x" = .ok () := rfl
  have generated (id : String) : ("Stop", "*", HookCall.stop.command id "/s" "w") ∈
      (HookSettings.forSession id "/s" "w").commands := by
    rw [HookSettings.commands_forSession]
    exact List.mem_map.mpr ⟨("Stop", "*", .stop), by decide, rfl⟩
  refine ⟨quote, hyphen, ?_, ?_⟩
  · obtain ⟨call, words, args, intended, line, fields, reads, -⟩ :=
      hook_reports_iff_positional quote (generated "it's")
    cases intended
    exact ⟨_, args, generated _, ⟨words, line, fields 0 false⟩, reads.mpr (by decide)⟩
  · obtain ⟨call, words, args, intended, line, fields, reads, -⟩ :=
      hook_reports_iff_positional hyphen (generated "-x")
    cases intended
    exact ⟨_, args, generated _, ⟨words, line, fields 0 false⟩, fun h => by cases reads.mp h⟩

end SessionWatch
