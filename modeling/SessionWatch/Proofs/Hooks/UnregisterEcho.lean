/-
# What arrives when a session is taken off without the wrapper

The line that takes a session off has its command printed by an echo. An echo
that prints its arguments as they are sends the command. One that replaces
escapes first leaves those of JSON in place that it does not know, which still
is the command; any escape that it replaces makes the line shorter than a
command about that session can be, so what is sent is another one, or none.

Key definitions: `Unregisters`, `alteredByEcho`, `Expands`.
Key theorems: `Command.length_line_le`, `expand_line`, `echo_unregisters_iff`.
-/
import SessionWatch.Proofs.Hooks.HookLine
import SessionWatch.Proofs.Json.Shortest
import SessionWatch.Proofs.Wire.Acceptance

namespace SessionWatch

open Text (utf8 encode)

/-! ### The shortest line -/

namespace Command

/-- What stands in front of the id in the line of a command that takes a session off. -/
def unregisterFront : List Char :=
  '{' :: Json.quoteChars "cmd" ++ ':' :: Json.quoteChars "unregister" ++ ','
    :: Json.quoteChars "id" ++ [':', '"']

/-- The line of a command that takes a session off, with these characters for the id. -/
def unregisterChars (inner : List Char) : List Char := unregisterFront ++ inner ++ ['"', '}']

theorem toList_line_unregister (id : String) :
    (unregister id).line.toList = unregisterChars (id.toList.flatMap Json.escapeChar) := by
  have pushed (cs acc : List Char) : (Json.push cs acc).reverse = acc.reverse ++ cs := by
    simp [Json.push, List.reverseAux_eq]
  have object : (unregister id).toJson =
      .object [("cmd", .string "unregister"), ("id", .string id)] := rfl
  rw [line, object, Json.compact, String.toList_ofList]
  simp [Json.pushValue, Json.pushMembers, pushed, unregisterChars, unregisterFront,
    Json.quoteChars]

/-- **No line that takes a session off is shorter than the one that is written for that.** -/
theorem length_line_le {bs : Bytes} {id : String} (h : accept bs = .ok (.unregister id)) :
    (utf8 (unregister id).line).length ≤ bs.length := by
  obtain ⟨ms, read, asked⟩ := asked_of_accept h
  have named := Json.mem_of_valueOf asked.named
  have stated := Json.mem_of_valueOf (asked.stated.get_id rfl)
  have least := Json.leastBytes_le read
  have pair := Json.memberBytes_pair named stated (by simp)
  have length : (utf8 (unregister id).line).length =
      1 + Json.memberBytes [("cmd", .string "unregister"), ("id", .string id)] := by
    have object : (unregister id).toJson =
        .object [("cmd", .string "unregister"), ("id", .string id)] := rfl
    rw [line, object, Json.utf8_compact]
    simp only [Json.bytes, Json.restOfMembers, Json.memberBytes, Json.textBytes, List.length_cons,
      List.length_nil, List.length_append]
    omega
  rw [length]
  exact Nat.le_trans (Nat.add_le_add_left pair 1) least

end Command

/-! ### What an echo prints -/

/-- The characters whose escapes in JSON an echo replaces that knows escapes. -/
def alteredByEcho : List Char := ['\\', '\n', '\r', '\t', '\x08', '\x0c']

/-- What such an echo prints of the escape of a character. -/
def echoed (c : Char) : List Char := if c ∈ alteredByEcho then [c] else Json.escapeChar c

/-- An echo that knows escapes prints the one for the other, whatever follows. -/
def Expands (cs out : List Char) : Prop :=
  ∀ (fuel : Nat) (acc ds : List Char), (cs ++ ds).length ≤ fuel → ∃ fuel', ds.length ≤ fuel' ∧
    (Shell.echoEscapes false).expandFrom fuel acc (cs ++ ds) =
      (Shell.echoEscapes false).expandFrom fuel' (out.reverse ++ acc) ds

theorem Expands.append {cs ds out out' : List Char} (h : Expands cs out) (h' : Expands ds out') :
    Expands (cs ++ ds) (out ++ out') := by
  intro fuel acc es enough
  rw [List.append_assoc] at enough ⊢
  obtain ⟨fuel₁, enough₁, first⟩ := h fuel acc (ds ++ es) enough
  obtain ⟨fuel₂, enough₂, second⟩ := h' fuel₁ (out.reverse ++ acc) es enough₁
  refine ⟨fuel₂, enough₂, ?_⟩
  rw [first, second, List.reverse_append, List.append_assoc]

theorem expands_nil : Expands [] [] := fun fuel _ _ enough => ⟨fuel, enough, rfl⟩

/-- A character is printed as it is, unless it is a backslash. -/
theorem expands_char {c : Char} (h : c ≠ '\\') : Expands [c] [c] := by
  intro fuel acc ds enough
  cases fuel with
  | zero => cases enough
  | succ fuel =>
    refine ⟨fuel, Nat.le_of_succ_le_succ enough, ?_⟩
    rw [List.singleton_append, Text.Escapes.expandFrom, if_pos h]
    rfl

theorem expands_plain : ∀ {cs : List Char}, '\\' ∉ cs → Expands cs cs
  | [], _ => expands_nil
  | c :: cs, h => by
    rw [List.mem_cons, not_or] at h
    exact (expands_char (Ne.symm h.1)).append (expands_plain h.2)

theorem expands_flatMap {f g : Char → List Char} (h : ∀ c, Expands (f c) (g c)) :
    ∀ cs : List Char, Expands (cs.flatMap f) (cs.flatMap g)
  | [] => expands_nil
  | c :: cs => (h c).append (expands_flatMap h cs)

/-- A letter behind a backslash that stands for a character is replaced by it. -/
theorem expands_letter {mark c : Char} (hstop : mark ≠ 'c')
    (h : Text.letterEscapes.lookup mark = some c) : Expands ['\\', mark] [c] := by
  intro fuel acc ds enough
  cases fuel with
  | zero => cases enough
  | succ fuel =>
    refine ⟨fuel, ?_, ?_⟩
    · simp at enough
      omega
    · simp [Text.Escapes.expandFrom, hstop, Text.Escapes.read?, h]

/-- A backslash that is no escape for an echo is printed. -/
theorem expands_backslash {mark : Char} (hstop : mark ≠ 'c')
    (letter : Text.letterEscapes.lookup mark = none) (digit : Text.octalDigit? mark = none)
    {cs out : List Char} (h : Expands (mark :: cs) out) :
    Expands ('\\' :: mark :: cs) ('\\' :: out) := by
  intro fuel acc ds enough
  cases fuel with
  | zero => cases enough
  | succ fuel =>
    obtain ⟨fuel', enough', more⟩ := h fuel ('\\' :: acc) ds (Nat.le_of_succ_le_succ enough)
    refine ⟨fuel', enough', ?_⟩
    have kept : (Shell.echoEscapes false).read? (mark :: (cs ++ ds)) = none := by
      simp [Text.Escapes.read?, letter, digit, Shell.echoEscapes]
    rw [List.reverse_cons, List.append_assoc, List.singleton_append, ← more]
    simp [Text.Escapes.expandFrom, hstop, kept]

/-- **What an echo that knows escapes prints of a character.** -/
theorem expands_escapeChar (c : Char) : Expands (Json.escapeChar c) (echoed c) := by
  unfold echoed Json.escapeChar
  cases hmark : Json.shortEscapes.lookup c with
  | some mark =>
    have hmem := Json.mem_shortEscapes hmark
    simp only [Json.shortEscapes, List.mem_cons, Prod.mk.injEq, List.not_mem_nil, or_false] at hmem
    rcases hmem with ⟨rfl, rfl⟩ | ⟨rfl, rfl⟩ | ⟨rfl, rfl⟩ | ⟨rfl, rfl⟩ | ⟨rfl, rfl⟩ | ⟨rfl, rfl⟩ |
      ⟨rfl, rfl⟩
    · exact expands_backslash (by decide) rfl rfl (expands_char (by decide))
    all_goals exact expands_letter (by decide) rfl
  | none =>
    have kept : c ∉ alteredByEcho := by
      intro hmem
      simp only [alteredByEcho, List.mem_cons, List.not_mem_nil, or_false] at hmem
      rcases hmem with rfl | rfl | rfl | rfl | rfl | rfl <;> cases hmark
    rw [if_neg kept]
    dsimp only
    split
    · have digit : ∀ n < 16, Nat.digitChar n ≠ '\\' := by decide
      refine expands_backslash (by decide) rfl rfl (expands_plain ?_)
      have first : (if c.toNat < 0x10 then '0' else '1') ≠ '\\' := by split <;> decide
      simp [first.symm, (digit _ (Nat.mod_lt c.toNat (by decide))).symm]
    · refine expands_char ?_
      rintro rfl
      cases hmark

/-- **What an echo that knows escapes prints of the line of a command that takes a session off.** -/
theorem expand_line (id : String) :
    (Shell.echoEscapes false).expand (Command.unregister id).line =
      (String.ofList (Command.unregisterChars (id.toList.flatMap echoed)), true) := by
  have all : Expands (Command.unregisterChars (id.toList.flatMap Json.escapeChar))
      (Command.unregisterChars (id.toList.flatMap echoed)) :=
    ((expands_plain (by decide)).append (expands_flatMap expands_escapeChar id.toList)).append
      (expands_plain (by decide))
  obtain ⟨fuel, -, read⟩ := all (Command.unregister id).line.length [] [] (by
    rw [List.append_nil, ← Command.toList_line_unregister, String.length_toList])
  rw [List.append_nil, List.append_nil] at read
  rw [Text.Escapes.expand, Command.toList_line_unregister, read]
  cases fuel <;> simp [Text.Escapes.expandFrom]

/-! ### What arrives -/

/-- Bytes that are one line, which the daemon takes for a command that takes off this session. -/
def Unregisters (bytes : Bytes) (id : String) : Prop :=
  ∃ line, bytes = line ++ [0x0A] ∧ 0x0A ∉ line ∧ Command.accept line = .ok (.unregister id)

theorem exists_line_eq (id : String) :
    ∃ cs, (Command.unregister id).line.toList = '{' :: cs :=
  ⟨_, Command.toList_line_unregister id⟩

/-- The line of a command is no option of an echo. -/
theorem line_ne_option (id : String) : (Command.unregister id).line ≠ "-n" := by
  obtain ⟨cs, hcs⟩ := exists_line_eq id
  intro h
  rw [h] at hcs
  cases hcs

theorem printArgs_line (kind : Shell.Echo) (id : String) :
    kind.printArgs [(Command.unregister id).line] = kind.print [(Command.unregister id).line] := by
  unfold Shell.Echo.printArgs
  split
  · next heq => exact absurd (List.cons.inj heq).1 (line_ne_option id)
  · rfl

/-- **The echo of a shell prints the line of the command in its own way.** -/
theorem echo_line (st : Shell.State) (id : String) :
    Shell.Builtin.echo st [(Command.unregister id).line] =
      Shell.Builtin.say st "echo" (st.echo.printArgs [(Command.unregister id).line]) 0 := by
  obtain ⟨cs, hcs⟩ := exists_line_eq id
  unfold Shell.Builtin.echo
  cases hkind : st.echo with
  | escapes => rfl
  | verbatim =>
    rw [printArgs_line]
    have noOption : Utility.echoLetters [(Command.unregister id).line] =
        ([], [(Command.unregister id).line]) := by
      rw [Utility.echoLetters, hcs]
      simp
    simp [Utility.echo, noOption, Shell.Echo.print, Utility.Call.prints]

/-- The bytes that an echo prints that prints its arguments as they are. -/
theorem utf8_print_verbatim (id : String) :
    utf8 (Shell.Echo.print .verbatim [(Command.unregister id).line]) =
      utf8 (Command.unregister id).line ++ [0x0A] :=
  Text.utf8_append _ "\n"

/-- The bytes that an echo prints that knows escapes. -/
theorem utf8_print_escapes (id : String) :
    utf8 (Shell.Echo.print .escapes [(Command.unregister id).line]) =
      encode (Command.unregisterChars (id.toList.flatMap echoed)) ++ [0x0A] := by
  have printed : Shell.Echo.print .escapes [(Command.unregister id).line] =
      String.ofList (Command.unregisterChars (id.toList.flatMap echoed)) ++ "\n" := by
    unfold Shell.Echo.print
    rw [String.intercalate_singleton]
    simp only [expand_line, if_true]
  rw [printed, Text.utf8_append, Text.utf8_eq_encode, String.toList_ofList]
  rfl

/-- The bytes of the line of the command. -/
theorem utf8_line (id : String) : utf8 (Command.unregister id).line =
    encode (Command.unregisterChars (id.toList.flatMap Json.escapeChar)) := by
  rw [Text.utf8_eq_encode, Command.toList_line_unregister]

/-- What is printed of an escape is no longer than that, and shorter if it is altered. -/
theorem length_echoed_le (c : Char) :
    (encode (echoed c)).length + (if c ∈ alteredByEcho then 1 else 0) ≤
      (encode (Json.escapeChar c)).length := by
  unfold echoed
  split
  · next altered =>
    have each : (alteredByEcho.all fun c =>
      (encode [c]).length + 1 ≤ (encode (Json.escapeChar c)).length) = true := by decide
    exact of_decide_eq_true (List.all_eq_true.mp each c altered)
  · exact Nat.le_refl _

theorem length_flatMap_echoed (cs : List Char) :
    (encode (cs.flatMap echoed)).length + cs.countP (· ∈ alteredByEcho) ≤
      (encode (cs.flatMap Json.escapeChar)).length := by
  induction cs with
  | nil => exact Nat.le_refl 0
  | cons c cs ih =>
    have here := length_echoed_le c
    rw [List.flatMap_cons, List.flatMap_cons, Text.encode_append, Text.encode_append,
      List.length_append, List.length_append, List.countP_cons]
    simp only [decide_eq_true_eq]
    omega

/-- **What arrives takes off the session exactly if no escape is altered.** For every id that the
daemon takes a shell hands the line of the command to its echo, and what that prints to `nc`.
An echo that prints its arguments as they are sends one line, which the daemon takes for a command
that takes off that session. An echo that knows escapes does so exactly if the id has none of the
characters whose escapes it replaces. -/
theorem echo_unregisters_iff {id : String} (accepted : Command.checkId id = .ok ())
    (socket : String) :
    let payload := (Command.unregister id).line
    (∃ line left right, Shell.Program.ofText (unregisterLine id socket) =
        ⟨[.pipe (.command 1 left []) (.command line right [])], true⟩ ∧
      ∀ (depth : Nat) (whole : Bool) (st : Shell.State), st.isOn = true →
        Shell.fieldsOf (depth + 3) whole left st = (["echo", payload], st) ∧
          Shell.fieldsOf (depth + 3) whole right st = (["nc", "-U", socket], st)) ∧
    Shell.Builtin.find? "echo" = some Shell.Builtin.echo ∧
    (∀ st : Shell.State, Shell.Builtin.echo st [payload] =
      Shell.Builtin.say st "echo" (st.echo.printArgs [payload]) 0) ∧
    ∀ kind : Shell.Echo, Unregisters (utf8 (kind.printArgs [payload])) id ↔
      (kind = .escapes → ∀ c ∈ id.toList, c ∉ alteredByEcho) := by
  intro payload
  obtain ⟨line, program⟩ := ofText_unregisterLine id socket
  refine ⟨⟨line, _, _, program, fun depth whole st on =>
    fieldsOf_unregisterWords id socket depth whole on⟩, rfl, fun st => echo_line st id,
    fun kind => ⟨?_, fun unaltered => ?_⟩⟩
  · rintro ⟨line, sent, -, taken⟩ rfl c hc altered
    have same : encode (Command.unregisterChars (id.toList.flatMap echoed)) = line := by
      rw [printArgs_line, utf8_print_escapes] at sent
      exact List.append_cancel_right sent
    have least := Command.length_line_le taken
    have shorter := length_flatMap_echoed id.toList
    have some_altered : 0 < id.toList.countP (· ∈ alteredByEcho) :=
      List.countP_pos_iff.mpr ⟨c, hc, by simpa using altered⟩
    rw [← same, utf8_line] at least
    simp only [Command.unregisterChars, Text.encode_append, List.length_append] at least
    omega
  · refine ⟨utf8 payload, ?_, (Command.unregister id).not_mem_line, Command.accept_line ?_⟩
    · rw [printArgs_line]
      cases kind with
      | verbatim => exact utf8_print_verbatim id
      | escapes =>
        have same : id.toList.flatMap echoed = id.toList.flatMap Json.escapeChar :=
          List.flatMap_congr fun c hc => if_neg (unaltered rfl c hc)
        rw [utf8_print_escapes, same, ← utf8_line]
    · simp [Command.check, Command.targetId, accepted]

/-- A backslash is altered by an echo that knows escapes, a quote is not. -/
theorem echo_unregisters_iff_backslash :
    Command.checkId "a\\b" = .ok () ∧
    Unregisters (utf8 (Shell.Echo.printArgs .verbatim [(Command.unregister "a\\b").line])) "a\\b" ∧
    ¬ Unregisters (utf8 (Shell.Echo.printArgs .escapes [(Command.unregister "a\\b").line])) "a\\b" ∧
    Unregisters (utf8 (Shell.Echo.printArgs .escapes [(Command.unregister "it's").line])) "it's" := by
  have slash : Command.checkId "a\\b" = .ok () := rfl
  have quote : Command.checkId "it's" = .ok () := rfl
  refine ⟨slash, ?_, ?_, ?_⟩
  · exact ((echo_unregisters_iff slash "/s").2.2.2 .verbatim).mpr nofun
  · intro h
    exact ((echo_unregisters_iff slash "/s").2.2.2 .escapes).mp h rfl '\\' (by decide) (by decide)
  · have kept : ("it's".toList.any (alteredByEcho.contains ·)) = false := by decide
    refine ((echo_unregisters_iff quote "/s").2.2.2 .escapes).mpr fun _ c hc altered => ?_
    exact List.any_eq_false.mp kept c hc (List.contains_iff_mem.mpr altered)

end SessionWatch
