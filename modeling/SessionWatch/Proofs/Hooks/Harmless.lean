/-
# Hooks are harmless

An agent waits for its hooks, so a hook ends well and prints nothing, whatever
its input is and whatever becomes of its attempts to reach the daemon. It makes
a second attempt only if the first one found no connection, so that no command
is sent twice, and none at all if there is nothing to report.

To see what a client does, it is made to keep a log of its attempts.

Key definitions: `Attempt`, `Client.logged`, `SentOnce`, `HookCall.Silent`.
Key theorems: `Client.log_sendWithRetry`, `HookCall.command?_iff_not_silent`,
`hook_harmless_and_sent_once`.
-/
import SessionWatch.Proofs.Hooks.HookArguments

namespace SessionWatch

open Program (readArguments)

variable {σ : Type}

/-! ### A log of attempts -/

/-- An attempt to send a line, and what came of it. -/
structure Attempt where
  socket : String
  timeoutMs : Nat
  line : Bytes
  contact : Contact
  deriving DecidableEq

/-- Attempts at one command: a second one is made only if the first found no connection. -/
inductive SentOnce : List Attempt → Prop where
  | never : SentOnce []
  | once (a : Attempt) : SentOnce [a]
  | again (a b : Attempt) {why : ConnectFault} (h : a.contact = .notConnected why) :
      SentOnce [a, b]

namespace SentOnce

variable {as : List Attempt}

theorem length_le (h : SentOnce as) : as.length ≤ 2 := by
  cases h with
  | never => exact Nat.zero_le 2
  | once a => exact Nat.le_succ 1
  | again a b => exact Nat.le_refl 2

theorem first_notConnected (h : SentOnce as) {a b : Attempt} (two : as = [a, b]) :
    ∃ why, a.contact = .notConnected why := by
  cases h with
  | never | once => cases two
  | again _ _ lost =>
    cases two
    exact ⟨_, lost⟩

/-- The line, or a part of it, was written in one attempt at most. -/
theorem countP_wrote_le (h : SentOnce as) : as.countP (·.contact.wrote) ≤ 1 := by
  cases h with
  | never => exact Nat.zero_le 1
  | once a => exact List.countP_le_length
  | again a b lost =>
    rw [List.countP_cons_of_neg (by simp [lost, Contact.wrote])]
    exact List.countP_le_length

end SentOnce

namespace Client

/-- A client that also keeps a log of its attempts. -/
def logged (client : Client σ) : Client (σ × List Attempt) where
  enabled := client.enabled
  socket := client.socket
  reach socket timeoutMs line outer :=
    let (contact, s) := client.reach socket timeoutMs line outer.1
    (contact, s, outer.2 ++ [⟨socket, timeoutMs, line, contact⟩])

variable (client : Client σ) (c : Command) (timeoutMs : Nat)

/-- Reading a reply never fails for want of a connection. -/
theorem readReply_ne_notConnected (bytes : Bytes) (ending : Contact.Ending) (path : String)
    (why : ConnectFault) : readReply bytes ending ≠ .error (.notConnected path why) := by
  unfold readReply
  intro h
  split at h
  · next hline =>
    cases h
    unfold replyLine at hline
    dsimp only at hline
    split at hline
    · split at hline <;> cases hline
    · split at hline
      · cases hline
      · cases ending <;> cases hline
  · unfold decodeReply at h
    dsimp only at h
    split at h
    · cases h
    · cases hdecode : Reply.decode (Text.utf8 (Text.trim (Text.ofUtf8Lossy _))) with
      | ok r =>
        rw [hdecode] at h
        cases h
      | error e =>
        rw [hdecode] at h
        cases h

/-- Without a way to the daemon nothing is attempted. -/
theorem log_send_of_not_canReach (h : ¬ client.CanReach) (outer : σ × List Attempt) :
    (client.logged.send c timeoutMs outer).outer.2 = outer.2 ∧
      ∀ path why,
        (client.logged.send c timeoutMs outer).result ≠ .error (.notConnected path why) := by
  unfold send exchange
  cases henabled : client.enabled with
  | false => simp [logged, henabled]
  | true =>
    cases hsocket : client.socket with
    | none => simp [logged, henabled, hsocket]
    | some path => exact absurd ⟨henabled, by rw [hsocket]; rfl⟩ h

/-- **A command is one attempt**, and it fails for want of a connection only if the attempt did. -/
theorem log_send_of_canReach (h : client.CanReach) (outer : σ × List Attempt) :
    ∃ a : Attempt, (client.logged.send c timeoutMs outer).outer.2 = outer.2 ++ [a] ∧
      (∀ path why, (client.logged.send c timeoutMs outer).result =
        .error (.notConnected path why) → a.contact = .notConnected why) := by
  obtain ⟨henabled, path, hsocket⟩ : client.enabled = true ∧ ∃ path, client.socket = some path :=
    ⟨h.1, Option.isSome_iff_exists.mp h.2⟩
  let contact := (client.reach path timeoutMs (wireLine c) outer.1).1
  refine ⟨⟨path, timeoutMs, wireLine c, contact⟩, ?_, ?_⟩
  · simp [send, exchange, logged, henabled, hsocket, contact]
  · intro path' why hresult
    show contact = .notConnected why
    simp only [send, exchange, logged, henabled, hsocket, if_true] at hresult
    rw [show (client.reach path timeoutMs (wireLine c) outer.1).1 = contact from rfl] at hresult
    cases hcontact : contact with
    | notConnected why' =>
      rw [hcontact] at hresult
      cases hresult
      rfl
    | notWritten why' =>
      rw [hcontact] at hresult
      cases hresult
    | answered bytes ending =>
      rw [hcontact] at hresult
      exact absurd hresult (readReply_ne_notConnected bytes ending path' why)

/-- **No command is sent twice**, and it is sent if there is a way to the daemon. -/
theorem log_sendWithRetry (outer : σ × List Attempt) :
    ∃ as, (client.logged.sendWithRetry c timeoutMs outer).outer.2 = outer.2 ++ as ∧
      SentOnce as ∧ (as ≠ [] ↔ client.CanReach) := by
  by_cases reach : client.CanReach
  · obtain ⟨a, logged, lost⟩ := client.log_send_of_canReach c timeoutMs reach outer
    unfold sendWithRetry
    dsimp only
    split
    · next path why hresult =>
      obtain ⟨b, again, -⟩ := client.log_send_of_canReach c timeoutMs reach
        (client.logged.send c timeoutMs outer).outer
      refine ⟨[a, b], ?_, .again a b (lost path why hresult), by simp [reach]⟩
      rw [again, logged, List.append_assoc, List.singleton_append]
    · exact ⟨[a], logged, .once a, by simp [reach]⟩
  · obtain ⟨logged, found⟩ := client.log_send_of_not_canReach c timeoutMs reach outer
    unfold sendWithRetry
    dsimp only
    split
    · next path why hresult => exact absurd hresult (found path why)
    · exact ⟨[], by rw [logged, List.append_nil], .never, by simp [reach]⟩

end Client

/-! ### Nothing to report -/

namespace HookCall

/-- The input of a hook gives it nothing to report: as far as it is read it is no text, or it is
not what the hook is given at that time, or the turn goes on because of an earlier hook. -/
inductive Silent (input : Bytes) : HookCall → Prop where
  | notText {call : HookCall} (looks : call = .stop ∨ call = .todo)
      (h : Text.ofUtf8? (input.take maxHookInputBytes) = none) : Silent input call
  | notStop {text : String} {why : Json.Refusal}
      (h : Text.ofUtf8? (input.take maxHookInputBytes) = some text)
      (shown : Text.allBlank text = false)
      (refused : StopInput.shape.decode (Text.utf8 text) = .error why) : Silent input .stop
  | goesOn {text : String} {i : StopInput}
      (h : Text.ofUtf8? (input.take maxHookInputBytes) = some text)
      (shown : Text.allBlank text = false)
      (read : StopInput.shape.decode (Text.utf8 text) = .ok i) (active : i.active = true) :
      Silent input .stop
  | notJson {text : String} {why : Json.Refusal}
      (h : Text.ofUtf8? (input.take maxHookInputBytes) = some text)
      (refused : Json.parse (Text.utf8 text) = .error why) : Silent input .todo
  | notTodos {text : String} {v : Json} {why : Json.Mismatch}
      (h : Text.ofUtf8? (input.take maxHookInputBytes) = some text)
      (read : Json.parse (Text.utf8 text) = .ok v)
      (refused : TodoItem.ofHook v.canonical = .error why) : Silent input .todo

/-- The end of a turn is reported unless its input cannot be read or the turn goes on. -/
theorem stopCommand?_iff (id : String) {text : String} :
    (∃ c, stopCommand? id text = .ok (some c)) ↔
    Text.allBlank text = true ∨
      ∃ i, StopInput.shape.decode (Text.utf8 text) = .ok i ∧ i.active = false := by
  unfold stopCommand?
  cases hblank : Text.allBlank text with
  | true => simp
  | false =>
    cases hdecode : StopInput.shape.decode (Text.utf8 text) with
    | error why => simp
    | ok i => cases hactive : i.active <;> simp [hactive]

theorem todosCommand_iff {id text : String} : (∃ c, todosCommand id text = .ok c) ↔
    ∃ v items, Json.parse (Text.utf8 text) = .ok v ∧ TodoItem.ofHook v.canonical = .ok items := by
  unfold todosCommand
  cases hparse : Json.parse (Text.utf8 text) with
  | error why => simp
  | ok v =>
    cases hitems : TodoItem.ofHook v.canonical with
    | error why => simp [hitems]
    | ok items => simp [hitems]

section silent

variable {input : Bytes} {text : String}

theorem silent_stop_iff (h : Text.ofUtf8? (input.take maxHookInputBytes) = some text) :
    Silent input .stop ↔ Text.allBlank text = false ∧
      ∀ i, StopInput.shape.decode (Text.utf8 text) = .ok i → i.active = true := by
  constructor
  · intro silent
    cases silent with
    | notText _ none => cases none.symm.trans h
    | notStop h' shown refused =>
      obtain rfl := Option.some.inj (h'.symm.trans h)
      exact ⟨shown, fun i read => by cases refused.symm.trans read⟩
    | goesOn h' shown read active =>
      obtain rfl := Option.some.inj (h'.symm.trans h)
      exact ⟨shown, fun i read' => Except.ok.inj (read.symm.trans read') ▸ active⟩
  · rintro ⟨shown, goesOn⟩
    cases hdecode : StopInput.shape.decode (Text.utf8 text) with
    | error why => exact .notStop h shown hdecode
    | ok i => exact .goesOn h shown hdecode (goesOn i hdecode)

theorem silent_todo_iff (h : Text.ofUtf8? (input.take maxHookInputBytes) = some text) :
    Silent input .todo ↔ ∀ v items, Json.parse (Text.utf8 text) = .ok v →
      TodoItem.ofHook v.canonical ≠ .ok items := by
  constructor
  · intro silent v items read listed
    cases silent with
    | notText _ none => cases none.symm.trans h
    | notJson h' refused =>
      obtain rfl := Option.some.inj (h'.symm.trans h)
      cases refused.symm.trans read
    | notTodos h' read' refused =>
      obtain rfl := Option.some.inj (h'.symm.trans h)
      obtain rfl := Except.ok.inj (read'.symm.trans read)
      cases refused.symm.trans listed
  · intro unlisted
    cases hparse : Json.parse (Text.utf8 text) with
    | error why => exact .notJson h hparse
    | ok v =>
      cases hitems : TodoItem.ofHook v.canonical with
      | error why => exact .notTodos h hparse hitems
      | ok items => exact absurd hitems (unlisted v items hparse)

end silent

/-- **A hook has a command to send exactly if its input gives it something to report.** -/
theorem command?_iff_not_silent (call : HookCall) (id : String) (input : Bytes) :
    (∃ c, call.command? id input = .ok (some c)) ↔ ¬ call.Silent input := by
  cases call with
  | state s =>
    refine iff_of_true ⟨_, rfl⟩ fun silent => ?_
    cases silent with
    | notText looks => rcases looks with h | h <;> cases h
  | stop =>
    unfold command? inputText
    cases htext : Text.ofUtf8? (input.take maxHookInputBytes) with
    | none => exact iff_of_false (by rintro ⟨c, ⟨⟩⟩) fun h => h (.notText (.inl rfl) htext)
    | some text =>
      refine (stopCommand?_iff id).trans ?_
      rw [silent_stop_iff htext]
      cases Text.allBlank text <;> simp
  | todo =>
    unfold command? inputText
    cases htext : Text.ofUtf8? (input.take maxHookInputBytes) with
    | none => exact iff_of_false (by rintro ⟨c, ⟨⟩⟩) fun h => h (.notText (.inr rfl) htext)
    | some text =>
      have sends : (∃ c, (todosCommand id text).map some = .ok (some c)) ↔
          ∃ c, todosCommand id text = .ok c := by
        cases todosCommand id text <;> simp [Except.map]
      refine sends.trans (todosCommand_iff.trans ?_)
      rw [silent_todo_iff htext]
      simp

/-- What a hook attempts is one command, if it has one. -/
theorem log_deliver (call : HookCall) (client : Client σ) (id : String) (input : Bytes)
    (outer : σ) :
    let as := (call.deliver client.logged id input (outer, [])).outer.2
    SentOnce as ∧ (as ≠ [] ↔ client.CanReach ∧ ¬ call.Silent input) := by
  intro as
  rw [← command?_iff_not_silent call id input]
  cases hcommand : call.command? id input with
  | error f =>
    have none : as = [] := by simp only [as, deliver, hcommand]
    rw [none]
    exact ⟨.never, by simp⟩
  | ok c? =>
    cases c? with
    | none =>
      have none : as = [] := by simp only [as, deliver, hcommand]
      rw [none]
      exact ⟨.never, by simp⟩
    | some c =>
      obtain ⟨sent, log, once, reached⟩ :=
        client.log_sendWithRetry c call.timeoutMs (outer, ([] : List Attempt))
      have all : as = sent := by simp only [as, deliver, hcommand, log, List.nil_append]
      rw [all]
      exact ⟨once, reached.trans (by simp)⟩

end HookCall

/-! ### Runs of the program -/

theorem Client.isEnabled_iff (setting : Option String) :
    Client.isEnabled setting = true ↔ ∀ v ∈ Client.offValues, setting ≠ some v := by
  cases setting with
  | none => simp [Client.isEnabled]
  | some v =>
    rw [Client.isEnabled, Option.all_some, Bool.not_eq_true', ← Bool.not_eq_true,
      List.contains_iff_mem]
    exact ⟨fun h v' hv' same => h (Option.some.inj same ▸ hv'), fun h hv => h v hv rfl⟩

/-- **A hook is harmless, and sends its command once.** Whatever the arguments of a hook, its input,
the setting that switches clients off and the daemon at the socket are: the program ends well,
prints nothing and changes no file. It makes two attempts at most, the second only if the first
found no connection, and something is written in one of them at most. It makes none exactly if
clients are switched off, there is no path to a socket, or the input gives it nothing to report. -/
theorem hook_harmless_and_sent_once {args : List String} {name : String} {call : HookCall}
    {id : String} (parsed : readArguments args = .run name (.hook call id))
    (place : Operator.Place) (setting socket : Option String)
    (reach : String → Nat → Bytes → σ → Contact × σ) (input : Bytes) (files : Files) (outer : σ) :
    let client : Client σ := ⟨Client.isEnabled setting, socket, reach⟩
    let ran := Program.run place client.logged input files (outer, []) args
    let attempts := ran.outer.2
    ran.exit = 0 ∧ ran.output = "" ∧ ran.errors = "" ∧ ran.files = files ∧
    attempts.length ≤ 2 ∧
    (∀ first second, attempts = [first, second] →
      ∃ why, first.contact = .notConnected why) ∧
    attempts.countP (·.contact.wrote) ≤ 1 ∧
    (attempts = [] ↔ (∃ v ∈ Client.offValues, setting = some v) ∨ socket = none ∨
      call.Silent input) := by
  intro client ran attempts
  have carried : ran = { files := files, outer :=
      (call.deliver client.logged id input (outer, [])).outer } := by
    simp only [ran, Program.run, parsed, Program.perform]
  obtain ⟨once, reached⟩ := call.log_deliver client id input outer
  have attempted : attempts = (call.deliver client.logged id input (outer, [])).outer.2 := by
    simp only [attempts, carried]
  rw [← attempted] at once reached
  have way : client.CanReach ↔ (∀ v ∈ Client.offValues, setting ≠ some v) ∧ socket ≠ none := by
    rw [← Client.isEnabled_iff, ← Option.isSome_iff_ne_none]
    rfl
  refine ⟨by rw [carried], by rw [carried], by rw [carried], by rw [carried], once.length_le,
    fun first second two => once.first_notConnected two, once.countP_wrote_le, ?_⟩
  rw [← not_iff_not, ← ne_eq, reached, way]
  simp [and_assoc]

/-- A daemon refuses the first attempt and is silent after the second. A turn that goes on because
of an earlier hook is not reported, and nor is one whose input is no text. -/
theorem hook_harmless_and_sent_once_refused :
    let reach : String → Nat → Bytes → Nat → Contact × Nat := fun _ _ _ tries =>
      (if tries = 0 then .notConnected .refused else .answered [] .silent, tries + 1)
    let client : Client Nat := ⟨Client.isEnabled (some "on"), some "/run/attn.sock", reach⟩
    let place : Operator.Place := ⟨⟨⟨2024, 3, 1⟩, 43200, 0⟩, 0, "/src", none⟩
    let run (call : HookCall) (input : Bytes) :=
      Program.run place client.logged input {} (0, []) (call.args "it's")
    let ran := run (.state .pendingApproval) []
    ran.outer.2.map (·.contact) = [.notConnected .refused, .answered [] .silent] ∧
    ran.exit = 0 ∧ ran.output = "" ∧ ran.errors = "" ∧
    (∀ call : HookCall, ∃ name, readArguments (call.args "it's") = .run name (.hook call "it's")) ∧
    (run .stop (Text.utf8 "\x7b\"stop_hook_active\":true\x7d")).outer.2 = [] ∧
    (run .stop [0xFF]).outer.2 = [] := by
  intro reach client place run ran
  have parsed (call : HookCall) :
      readArguments (call.args "it's") = .run (call.words "it's").1 (.hook call "it's") :=
    Program.readArguments_args call (by decide)
  have active : StopInput.shape.decode (Text.utf8 "\x7b\"stop_hook_active\":true\x7d") =
      .ok ⟨none, true⟩ := rfl
  have goesOn : HookCall.Silent (Text.utf8 "\x7b\"stop_hook_active\":true\x7d") .stop :=
    .goesOn rfl rfl active rfl
  have noText : HookCall.Silent [0xFF] .stop := .notText (.inl rfl) (by decide +kernel)
  have none (input : Bytes) (silent : HookCall.Silent input .stop) :
      (run .stop input).outer.2 = [] := by
    obtain ⟨-, -, -, -, -, -, -, quiet⟩ := hook_harmless_and_sent_once (parsed .stop) place
      (some "on") (some "/run/attn.sock") reach input {} 0
    exact quiet.mpr (.inr (.inr silent))
  obtain ⟨exit, output, errors, -⟩ := hook_harmless_and_sent_once (parsed (.state .pendingApproval))
    place (some "on") (some "/run/attn.sock") reach [] {} 0
  refine ⟨?_, exit, output, errors, fun call => ⟨_, parsed call⟩, none _ goesOn, none _ noText⟩
  simp only [ran, run, Program.run, parsed]
  rfl

end SessionWatch
