/-
# Which daemon a hook talks to

The line of a hook tells the wrapper the path of the socket without the blanks
around it; the line that takes a session off names the path as it was given.
The wrapper takes the path that it is told unless it is empty, and the one
below the home directory then. So both talk to the same daemon if and only if
no blank stands at an end of the path.

Key definitions: `NamesSocket`.
Key theorems: `HookCall.calls_line`, `namesSocket_unregisterLine`, `hook_socket_agrees_iff`.
-/
import SessionWatch.Files.Places
import SessionWatch.Proofs.Hooks.HookLine
import SessionWatch.Proofs.Shell.Calling
import SessionWatch.Proofs.Text.Trim

namespace SessionWatch

open Shell (Word)

/-! ### What the wrapper is told -/

/-- The wrapper is called with the arguments of a call, and is told the path of the socket without
the blanks around it. -/
theorem HookCall.calls_line (id socket wrapper : String) (call : HookCall) :
    Shell.Calls (call.line id socket wrapper) (socketVariable, Text.trim socket)
      (wrapperName wrapper) (call.args id) := by
  refine ⟨_, call.ofText_line id socket wrapper, fun depth s on => ⟨?_, ?_⟩⟩
  · rw [call.splitSettings_shellWords, Shell.settingsOf_plain (Word.isPlain_quoted _) _ depth on,
      Word.text_quoted]
  · intro program loose m
    have name : (Word.quoted (wrapperName wrapper)).text = wrapperName wrapper :=
      Word.text_quoted _
    have arguments : (call.shellWords id socket wrapper).tail.tail.map Word.text = call.args id := by
      rw [List.map_tail, call.map_text_tail, List.tail_cons]
    have long : 1 < (call.shellWords id socket wrapper).tail.tail.length := by
      simp [shellWords]
    have carried := Shell.simple_setting (call.splitSettings_shellWords id socket wrapper)
      (call.isPlain_tail id socket wrapper) (call.assignment?_tail id socket wrapper) long
      (Word.isPlain_quoted _) (by decide) (by rwa [name]) depth m on loose
    rw [Word.text_quoted, name] at carried
    rw [← arguments]
    exact carried

/-! ### What the other line names -/

/-- A shell that carries out the line hands what a command prints to a program that talks to the
socket with this path. -/
def NamesSocket (line path : String) : Prop :=
  ∃ (left right : List Word) (number : Nat), Shell.Program.ofText line =
      ⟨[.pipe (.command 1 left []) (.command number right [])], true⟩ ∧
    ∀ (depth : Nat) (whole : Bool) (s : Shell.State), s.isOn = true →
      Shell.fieldsOf (depth + 3) whole right s = (["nc", "-U", path], s)

/-- The line that takes a session off names the path as it is given. -/
theorem namesSocket_unregisterLine (id socket : String) :
    NamesSocket (unregisterLine id socket) socket := by
  obtain ⟨number, program⟩ := ofText_unregisterLine id socket
  exact ⟨_, _, number, program, fun depth whole s on =>
    (fieldsOf_unregisterWords id socket depth whole on).2⟩

/-! ### Where the wrapper goes -/

namespace Environment

variable (e : Environment) {path : String}

/-- A path that is told is taken unless it is empty. -/
theorem socket?_told (path : String) : { e with socketPath := some path }.socket? =
    if path = "" then e.attnDir?.map (joinPath · "attn.sock") else some path := by
  by_cases empty : path = ""
  · subst empty
    rfl
  · simp [socket?, nonEmpty?, empty]

/-- The path below a directory is not blank. -/
theorem joinPath_ne_blank (blank : Text.trim path = "") (dir : String) :
    joinPath dir "attn.sock" ≠ path := by
  have letter : 'k' ∈ (joinPath dir "attn.sock").toList := by
    unfold joinPath
    split
    · decide
    · split <;> simp
  rintro rfl
  have blanks : Text.allBlank (joinPath dir "attn.sock") = true := Text.trim_eq_empty_iff.mp blank
  exact absurd (List.all_eq_true.mp blanks 'k' letter) (by decide)

/-- The wrapper goes to a path from which the blanks at its ends are taken if and only if there
are none. -/
theorem socket?_trim_iff (named : path ≠ "") :
    { e with socketPath := some (Text.trim path) }.socket? = some path ↔ Text.trim path = path := by
  rw [socket?_told]
  by_cases empty : Text.trim path = ""
  · have other : Text.trim path ≠ path := fun h => named (h.symm.trans empty)
    have elsewhere : ∀ dir, joinPath dir "attn.sock" ≠ path := joinPath_ne_blank empty
    simp [empty, elsewhere, named.symm]
  · simp [empty]

end Environment

/-! ### Agreement -/

/-- **A hook talks to the daemon that a session is taken off at if and only if no blank stands at
an end of the path of its socket.** -/
theorem hook_socket_agrees_iff (id socket wrapper : String) (named : socket ≠ "") :
    (∀ (event matcher : String) (h : HookCommand),
      (event, matcher, h) ∈ (HookSettings.forSession id socket wrapper).commands →
      ∃ call : HookCall, (event, matcher, call) ∈ hookCalls ∧
        Shell.Calls h.command (socketVariable, Text.trim socket) (wrapperName wrapper)
          (call.args id)) ∧
    NamesSocket (unregisterLine id socket) socket ∧
    ∀ e : Environment,
      { e with socketPath := some (Text.trim socket) }.socket? = some socket ↔
        Text.trim socket = socket := by
  refine ⟨fun event matcher h hmem => ?_, namesSocket_unregisterLine id socket,
    fun e => e.socket?_trim_iff named⟩
  rw [HookSettings.commands_forSession] at hmem
  obtain ⟨⟨event', matcher', call⟩, hcall, heq⟩ := List.mem_map.mp hmem
  cases heq
  exact ⟨call, hcall, call.calls_line id socket wrapper⟩

/-- A path with a blank in front is named by one line only, and one without blanks by both. -/
theorem hook_socket_agrees_iff_blank :
    " /s" ≠ "" ∧ "/s" ≠ "" ∧ ∀ e : Environment,
      { e with socketPath := some (Text.trim " /s") }.socket? ≠ some " /s" ∧
        { e with socketPath := some (Text.trim "/s") }.socket? = some "/s" := by
  refine ⟨by decide, by decide, fun e => ⟨?_, ?_⟩⟩
  · exact fun h => absurd (((hook_socket_agrees_iff "s1" " /s" "attn" (by decide)).2.2 e).mp h)
      (by decide)
  · exact ((hook_socket_agrees_iff "s1" "/s" "attn" (by decide)).2.2 e).mpr (by decide)

end SessionWatch
