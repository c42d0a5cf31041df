/-
# Hook lines and shells

What a shell reads in the line of a hook is one simple command: the variable
with the socket, and behind it the words of the call. What it reads in the
line that takes a session off is a pipeline of two. Ids, paths and names come
into these lines in quotes only, so none of their characters means anything to
the shell.

Key definitions: `HookSettings.commands`, `HookCall.args`, `HookCall.shellWords`,
`unregisterWords`.
Key theorems: `HookCall.scan_line`, `scan_unregisterLine`, `hook_lines_shell_safe`.
-/
import SessionWatch.Hooks.Generate
import SessionWatch.Proofs.Shell.Filling
import SessionWatch.Proofs.Shell.Line
import SessionWatch.Proofs.Wire.CommandLine

namespace SessionWatch

open Shell (Word Stands scan tokens? quoteChars)

/-! ### The words of the lines -/

/-- The commands of hook settings, each with its event and its matcher. -/
def HookSettings.commands (s : HookSettings) : List (String × String × HookCommand) :=
  s.hooks.flatMap fun (event, entries) =>
    entries.flatMap fun e => e.hooks.map fun h => (event, e.matcher, h)

/-- The calls of a session, each with its event and its matcher. -/
def hookCalls : List (String × String × HookCall) :=
  hookTable.flatMap fun (event, calls) => calls.map fun (matcher, call) => (event, matcher, call)

/-- The commands of a session are those of its calls. -/
theorem HookSettings.commands_forSession (id socket wrapper : String) :
    (forSession id socket wrapper).commands = hookCalls.map fun (event, matcher, call) =>
      (event, matcher, call.command id socket wrapper) := rfl

namespace HookCall

/-- The arguments of the wrapper. -/
def args (id : String) (call : HookCall) : List String :=
  (call.words id).1 :: id :: (call.words id).2.2.toList

/-- The words of the line of a call: the socket, the wrapper, and its arguments. -/
def shellWords (id socket wrapper : String) (call : HookCall) : List Word :=
  (Word.bare (socketVariable ++ "=") ++ Word.quoted (Text.trim socket))
    :: Word.quoted (wrapperName wrapper) :: Word.bare (call.words id).1 :: Word.quoted id
    :: (call.words id).2.2.toList.map Word.bare

variable (id socket wrapper : String) (call : HookCall)

/-- The parts of the line of a call. -/
theorem toList_line : (call.line id socket wrapper).toList = [' '].intercalate
    (((socketVariable ++ "=").toList ++ quoteChars (Text.trim socket).toList)
      :: quoteChars (wrapperName wrapper).toList :: (call.words id).1.toList
      :: quoteChars id.toList :: (call.words id).2.2.toList.map String.toList) := by
  cases call <;> simp [line, words, Shell.quote, List.intercalate_cons_cons]

theorem isBare_subcommand : Shell.IsBare (call.words id).1 := by
  cases call with
  | state => exact (by decide : Shell.IsBare "_hook-state")
  | stop => exact (by decide : Shell.IsBare "_hook-stop")
  | todo => exact (by decide : Shell.IsBare "_hook-todo")

theorem isBare_argument : ∀ s ∈ (call.words id).2.2.toList, Shell.IsBare s := by
  cases call with
  | state s => exact List.forall_mem_singleton.mpr (by cases s <;> decide)
  | stop | todo => exact nofun

/-- A shell reads the words of a call in its line. -/
theorem scan_line :
    scan (call.line id socket wrapper).toList = (call.shellWords id socket wrapper).map .word := by
  have arguments : List.Forall₂ Stands ((call.words id).2.2.toList.map String.toList)
      ((call.words id).2.2.toList.map fun s => .word (Word.bare s)) := by
    rw [List.forall₂_map_left_iff, List.forall₂_map_right_iff, List.forall₂_same]
    exact fun s hs => Shell.stands_bare (call.isBare_argument id s hs)
  rw [toList_line, Shell.scan_joined
    (.cons (Shell.stands_setting (by decide) _)
      (.cons (Shell.stands_quoted _) (.cons (Shell.stands_bare (call.isBare_subcommand id))
        (.cons (Shell.stands_quoted _) arguments))))]
  simp [shellWords]

/-- **The line of a call is one simple command.** -/
theorem ofText_line : Shell.Program.ofText (call.line id socket wrapper) =
    ⟨[.command 1 (call.shellWords id socket wrapper) []], true⟩ :=
  Shell.Program.ofText_words (call.scan_line id socket wrapper)
    (Shell.Script.beginsCommand_quoted _ _)

theorem tokens?_line : tokens? (call.line id socket wrapper).toList =
    some ((call.shellWords id socket wrapper).map .word) := by
  rw [tokens?, scan_line]
  simp

theorem isPlain_tail : ∀ w ∈ (call.shellWords id socket wrapper).tail, w.IsPlain := by
  simp only [shellWords, List.tail_cons, List.forall_mem_cons, List.forall_mem_map]
  exact ⟨Word.isPlain_quoted _, Word.isPlain_bare (call.isBare_subcommand id),
    Word.isPlain_quoted _, fun s hs => Word.isPlain_bare (call.isBare_argument id s hs)⟩

/-- Only the first word of a line sets a variable. -/
theorem assignment?_tail : ∀ w ∈ (call.shellWords id socket wrapper).tail,
    Shell.Script.assignment? w = none := by
  have subcommand : '=' ∉ (call.words id).1.toList := by
    cases call with
    | state => exact (by decide : '=' ∉ "_hook-state".toList)
    | stop => exact (by decide : '=' ∉ "_hook-stop".toList)
    | todo => exact (by decide : '=' ∉ "_hook-todo".toList)
  have argument : ∀ s ∈ (call.words id).2.2.toList, '=' ∉ s.toList := by
    cases call with
    | state s => exact List.forall_mem_singleton.mpr (by cases s <;> decide)
    | stop | todo => exact nofun
  simp only [shellWords, List.tail_cons, List.forall_mem_cons, List.forall_mem_map]
  exact ⟨Shell.assignment?_quoted _, Shell.assignment?_bare subcommand,
    Shell.assignment?_quoted _, fun s hs => Shell.assignment?_bare (argument s hs)⟩

/-- The first word of a line sets the variable with the socket. -/
theorem splitSettings_shellWords : Shell.splitSettings (call.shellWords id socket wrapper) =
    ([(socketVariable, Word.quoted (Text.trim socket))],
      (call.shellWords id socket wrapper).tail) :=
  Shell.splitSettings_cons
    (Shell.assignment?_setting rfl (by decide) (by decide) _)
    (call.assignment?_tail id socket wrapper)

/-- The texts of the words of a call. -/
theorem map_text_tail : (call.shellWords id socket wrapper).tail.map Word.text =
    wrapperName wrapper :: call.args id := by
  simp [shellWords, args, Function.comp_def]

/-- A shell calls the wrapper with the arguments of a call, after it has set the variable with the
socket. -/
theorem fieldsOf_tail (depth : Nat) (whole : Bool) {st : Shell.State} (on : st.isOn = true) :
    Shell.fieldsOf (depth + 3) whole (call.shellWords id socket wrapper).tail st =
      (wrapperName wrapper :: call.args id, st) := by
  rw [Shell.fieldsOf_plain (call.isPlain_tail id socket wrapper)
    (call.assignment?_tail id socket wrapper) depth whole on, map_text_tail]

end HookCall

/-- The words on both sides of the bar in the line that takes a session off. -/
def unregisterWords (id socket : String) : List Word × List Word :=
  ([Word.bare "echo", Word.quoted (Command.unregister id).line],
    [Word.bare "nc", Word.bare "-U", Word.quoted socket])

/-- A shell reads these words and the bar in the line that takes a session off. -/
theorem scan_unregisterLine (id socket : String) : scan (unregisterLine id socket).toList =
    (unregisterWords id socket).1.map .word ++
      .operator "|" :: (unregisterWords id socket).2.map .word := by
  have parts : (unregisterLine id socket).toList = [' '].intercalate
      ["echo".toList, quoteChars (Command.unregister id).line.toList, ['|'], "nc".toList,
        "-U".toList, quoteChars socket.toList] := by
    simp [unregisterLine, Shell.quote, List.intercalate_cons_cons]
  rw [parts, Shell.scan_joined
    (.cons (Shell.stands_bare (by decide)) (.cons (Shell.stands_quoted _)
      (.cons Shell.stands_bar (.cons (Shell.stands_bare (by decide))
        (.cons (Shell.stands_bare (by decide)) (.cons (Shell.stands_quoted _) .nil))))))]
  rfl

/-- The line that takes a session off is a pipeline of two simple commands. -/
theorem ofText_unregisterLine (id socket : String) :
    ∃ line, Shell.Program.ofText (unregisterLine id socket) =
      ⟨[.pipe (.command 1 (unregisterWords id socket).1 [])
        (.command line (unregisterWords id socket).2 [])], true⟩ :=
  Shell.Program.ofText_bar (scan_unregisterLine id socket)
    (by rintro name h; cases h; decide) (by rintro name h; cases h; decide)

/-- What a shell hands to the two commands of that line. -/
theorem fieldsOf_unregisterWords (id socket : String) (depth : Nat) (whole : Bool)
    {st : Shell.State} (on : st.isOn = true) :
    Shell.fieldsOf (depth + 3) whole (unregisterWords id socket).1 st =
        (["echo", (Command.unregister id).line], st) ∧
      Shell.fieldsOf (depth + 3) whole (unregisterWords id socket).2 st =
        (["nc", "-U", socket], st) := by
  have bare (s : String) (h : Shell.IsBare s) (free : '=' ∉ s.toList) :
      (Word.bare s).IsPlain ∧ Shell.Script.assignment? (Word.bare s) = none :=
    ⟨Word.isPlain_bare h, Shell.assignment?_bare free⟩
  have quoted (s : String) :
      (Word.quoted s).IsPlain ∧ Shell.Script.assignment? (Word.quoted s) = none :=
    ⟨Word.isPlain_quoted s, Shell.assignment?_quoted s⟩
  have left : ∀ w ∈ (unregisterWords id socket).1,
      w.IsPlain ∧ Shell.Script.assignment? w = none :=
    List.forall_mem_cons.mpr ⟨bare "echo" (by decide) (by decide),
      List.forall_mem_singleton.mpr (quoted _)⟩
  have right : ∀ w ∈ (unregisterWords id socket).2,
      w.IsPlain ∧ Shell.Script.assignment? w = none :=
    List.forall_mem_cons.mpr ⟨bare "nc" (by decide) (by decide),
      List.forall_mem_cons.mpr ⟨bare "-U" (by decide) (by decide),
        List.forall_mem_singleton.mpr (quoted _)⟩⟩
  rw [Shell.fieldsOf_plain (fun w hw => (left w hw).1) (fun w hw => (left w hw).2) depth whole on,
    Shell.fieldsOf_plain (fun w hw => (right w hw).1) (fun w hw => (right w hw).2) depth whole on]
  simp [unregisterWords]

/-- What a command looks like on the wire is read as that command. -/
theorem Command.parse_line (c : Command) :
    ∃ v, Json.parse (Text.utf8 c.line) = .ok v ∧ ofJson v.canonical = .ok c :=
  ⟨c.toJson, c.plain_toJson.parse_compact, c.ofJson_toJson⟩

/-! ### Safety -/

/-- **The lines of hooks are safe in a shell.** A quoted text between blanks is one word, all of
it quoted, which stands for that text and is left as it is. The line of each hook is one simple
command that sets the variable with the socket and calls the wrapper with the arguments of its
call. The line that takes a session off is a pipeline of two simple commands; what the first one
prints is read as a command that takes off that session. -/
theorem hook_lines_shell_safe :
    (∀ (s : String) (before : List Char) (b : Char), Shell.AtGap before → (b = ' ' ∨ b = '\t') →
      ((before ++ (Shell.quote s).toList ++ [b]).foldl Shell.Lexer.step {}).done =
          .word (Word.quoted s) :: (before.foldl Shell.Lexer.step {}).done ∧
        Shell.AtGap (before ++ (Shell.quote s).toList ++ [b])) ∧
    (∀ s : String, (Word.quoted s).text? = some s ∧ (∀ p ∈ Word.quoted s, p.IsQuoted) ∧
      ∀ (depth : Nat) (whole : Bool) (st : Shell.State), st.isOn = true →
        Shell.fieldsOf (depth + 3) whole [Word.quoted s] st = ([s], st)) ∧
    (∀ (id socket wrapper event matcher : String) (h : HookCommand),
      (event, matcher, h) ∈ (HookSettings.forSession id socket wrapper).commands →
      ∃ call : HookCall, (event, matcher, call) ∈ hookCalls ∧
        let setting := Word.bare (socketVariable ++ "=") ++ Word.quoted (Text.trim socket)
        let words := Word.quoted (wrapperName wrapper) :: Word.bare (call.words id).1
          :: Word.quoted id :: (call.words id).2.2.toList.map Word.bare
        tokens? h.command.toList = some ((setting :: words).map .word) ∧
        Shell.Program.ofText h.command = ⟨[.command 1 (setting :: words) []], true⟩ ∧
        Shell.splitSettings (setting :: words) =
          ([(socketVariable, Word.quoted (Text.trim socket))], words) ∧
        ∀ (depth : Nat) (whole : Bool) (st : Shell.State), st.isOn = true →
          Shell.settingsOf (depth + 4) [(socketVariable, Word.quoted (Text.trim socket))] st =
              ([(socketVariable, Text.trim socket)],
                st.set socketVariable (Text.trim socket)) ∧
            Shell.fieldsOf (depth + 3) whole words st =
              (wrapperName wrapper :: (call.words id).1 :: id :: (call.words id).2.2.toList, st)) ∧
    ∀ id socket : String,
      let payload := (Command.unregister id).line
      let left := [Word.bare "echo", Word.quoted payload]
      let right := [Word.bare "nc", Word.bare "-U", Word.quoted socket]
      tokens? (unregisterLine id socket).toList =
          some (left.map .word ++ .operator "|" :: right.map .word) ∧
        (∃ line, Shell.Program.ofText (unregisterLine id socket) =
          ⟨[.pipe (.command 1 left []) (.command line right [])], true⟩) ∧
        (∀ (depth : Nat) (whole : Bool) (st : Shell.State), st.isOn = true →
          Shell.fieldsOf (depth + 3) whole left st = (["echo", payload], st) ∧
            Shell.fieldsOf (depth + 3) whole right st = (["nc", "-U", socket], st)) ∧
        ∃ v, Json.parse (Text.utf8 payload) = .ok v ∧
          Command.ofJson v.canonical = .ok (.unregister id) := by
  refine ⟨fun s before b gap blank => ?_, fun s => ⟨?_, Word.isQuoted_quoted s, ?_⟩, ?_, ?_⟩
  · have spelt := Shell.spells_quoteChars s
    rw [Shell.quote, String.toList_ofList]
    exact ⟨spelt.between_blanks gap blank, spelt.atGap gap blank⟩
  · rw [(Word.isPlain_quoted s).text?_eq, Word.text_quoted]
  · intro depth whole st on
    rw [Shell.fieldsOf_plain (List.forall_mem_singleton.mpr (Word.isPlain_quoted s))
      (List.forall_mem_singleton.mpr (Shell.assignment?_quoted s)) depth whole on]
    simp
  · intro id socket wrapper event matcher h hmem
    rw [HookSettings.commands_forSession] at hmem
    obtain ⟨⟨event', matcher', call⟩, hcall, heq⟩ := List.mem_map.mp hmem
    cases heq
    refine ⟨call, hcall, call.tokens?_line id socket wrapper, call.ofText_line id socket wrapper,
      call.splitSettings_shellWords id socket wrapper, fun depth whole st on => ?_⟩
    refine ⟨?_, call.fieldsOf_tail id socket wrapper depth whole on⟩
    rw [Shell.settingsOf_plain (Word.isPlain_quoted _) _ depth on, Word.text_quoted]
  · intro id socket payload left right
    refine ⟨?_, ofText_unregisterLine id socket, fun depth whole st on =>
      fieldsOf_unregisterWords id socket depth whole on, (Command.unregister id).parse_line⟩
    rw [tokens?, scan_unregisterLine]
    simp [unregisterWords, left, right, payload]

/-- A text with a quote between blanks, and a hook line whose id looks like an expansion and a
quote. -/
theorem hook_lines_shell_safe_hostile :
    Shell.AtGap "echo ".toList ∧
    (("echo ".toList ++ (Shell.quote "it's").toList ++ [' ']).foldl Shell.Lexer.step {}).done =
      [.word (Word.quoted "it's"), .word (Word.bare "echo")] ∧
    ∃ h, ("Stop", "*", h) ∈ (HookSettings.forSession "$(x)'" "/s" " w ").commands ∧
      Shell.Program.ofText h.command =
        ⟨[.command 1 [Word.bare "ATTN_SOCKET_PATH=" ++ Word.quoted "/s", Word.quoted "w",
          Word.bare "_hook-stop", Word.quoted "$(x)'"] []], true⟩ := by
  have gap : Shell.AtGap "echo ".toList := ⟨by decide, by decide⟩
  have words := (hook_lines_shell_safe.1 "it's" "echo ".toList ' ' gap (.inl rfl)).1
  have hmem : ("Stop", "*", HookCall.stop.command "$(x)'" "/s" " w ") ∈
      (HookSettings.forSession "$(x)'" "/s" " w ").commands := by
    rw [HookSettings.commands_forSession]
    exact List.mem_map.mpr ⟨("Stop", "*", .stop), by decide, rfl⟩
  obtain ⟨call, hcall, -, program, -⟩ :=
    hook_lines_shell_safe.2.2.1 "$(x)'" "/s" " w " "Stop" "*" _ hmem
  have stop : call = .stop := by simpa [hookCalls, hookTable] using hcall
  subst stop
  exact ⟨gap, words, _, hmem, program⟩

end SessionWatch
