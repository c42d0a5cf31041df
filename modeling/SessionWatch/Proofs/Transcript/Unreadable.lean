/-
# Lines that cannot be read

A line that is a text but not JSON is skipped: a transcript with it is read as
the same transcript without it. A line that is not even a text is not skipped.
One such line, wherever it stands and be it the last one that is still being
written, makes the whole file an error, and there is no reply then.

Key definitions: `Transcript.IsText`, `Transcript.Unreadable`.
Key theorems: `Transcript.read_eq_none_iff`, `Transcript.read_unreadable`,
`Transcript.unreadable_skipped_iff`.
-/
import SessionWatch.Proofs.Transcript.CurrentTurn
import SessionWatch.Transcript.File

namespace SessionWatch.Transcript

open Text (utf8 ofUtf8?)

variable {f : Format} {max : Nat} {line content without : Bytes} {pieces before after : List Bytes}

/-- Some bytes are those of a text. -/
def IsText (bytes : Bytes) : Prop := ∃ s, ofUtf8? bytes = some s

instance (bytes : Bytes) : Decidable (IsText bytes) :=
  decidable_of_iff ((ofUtf8? bytes).isSome = true) Option.isSome_iff_exists

/-- A line from which no JSON can be read: it is not a text, or the text is not JSON. -/
def Unreadable (line : Bytes) : Prop :=
  ∀ s, ofUtf8? line = some s → Json.parse? (utf8 (Text.trim s)) = none

theorem unreadable_of_not_isText (h : ¬ IsText line) : Unreadable line :=
  fun s text => absurd ⟨s, text⟩ h

theorem forall_isText_iff :
    (∀ piece ∈ pieces, IsText piece) ↔ ∃ lines : List String, pieces = lines.map utf8 := by
  constructor
  · intro texts
    induction pieces with
    | nil => exact ⟨[], rfl⟩
    | cons piece pieces ih =>
      obtain ⟨⟨s, first⟩, rest⟩ := List.forall_mem_cons.mp texts
      obtain ⟨lines, rfl⟩ := ih rest
      exact ⟨s :: lines, by rw [Text.ofUtf8?_eq_some_iff.mp first, List.map_cons]⟩
  · rintro ⟨lines, rfl⟩
    exact List.forall_mem_map.mpr fun line _ => ⟨line, Text.ofUtf8?_utf8 line⟩

/-- **A transcript is read exactly if every line of it is a text.** -/
theorem read_eq_none_iff (made : content.MadeOf pieces) :
    read f max content = none ↔ ¬ ∀ piece ∈ pieces, IsText piece := by
  rw [read, Option.map_eq_none_iff, forall_isText_iff, lines?, Bytes.madeOf_iff.mp made,
    Option.eq_none_iff_forall_ne_some, not_exists]
  exact forall_congr' fun lines => not_congr Text.mapM_ofUtf8?_eq_some_iff

/-- A line that is a text but not JSON makes no difference. -/
theorem read_unreadable (unreadable : Unreadable line) (text : IsText line)
    (made : content.MadeOf (before ++ line :: after)) (rest : without.MadeOf (before ++ after)) :
    read f max content = read f max without := by
  obtain ⟨s, spelled⟩ := text
  obtain rfl := Text.ofUtf8?_eq_some_iff.mp spelled
  by_cases texts : ∀ piece ∈ before ++ after, IsText piece
  · obtain ⟨earlier, rfl⟩ := forall_isText_iff.mp fun piece h => texts piece (List.mem_append_left _ h)
    obtain ⟨later, rfl⟩ := forall_isText_iff.mp fun piece h => texts piece (List.mem_append_right _ h)
    have lines : HasLines content (earlier ++ s :: later) := by
      rwa [HasLines, List.map_append, List.map_cons]
    have lines' : HasLines without (earlier ++ later) := by
      rwa [HasLines, List.map_append]
    have passed : PassedOver f s := .notJson (unreadable s spelled)
    rw [read_of_hasLines lines, read_of_hasLines lines',
      lastReply_append_nothing passed.saysNothing]
  · have nor : ¬ ∀ piece ∈ before ++ utf8 s :: after, IsText piece := by
      intro all
      refine texts fun piece h => all piece ?_
      rw [List.mem_append] at h ⊢
      exact h.imp_right (List.mem_cons_of_mem _)
    rw [(read_eq_none_iff made).mpr nor, (read_eq_none_iff rest).mpr texts]

section file

variable {fs fs' : Files} {path path' : String} {place place' : Path}

theorem lastReplyAt_of_file (found : fs.lookup path = .ok (place, .file content)) :
    lastReplyAt fs f max path = (read f max content).elim (.error .notText) .ok := by
  rw [lastReplyAt, found]

/-- A transcript file is read if its content is. -/
theorem lastReplyAt_eq_ok_iff (found : fs.lookup path = .ok (place, .file content))
    {reply : Option String} :
    lastReplyAt fs f max path = .ok reply ↔ read f max content = some reply := by
  rw [lastReplyAt_of_file found]
  cases read f max content <;> simp

theorem lastReplyAt_eq_notText_iff (found : fs.lookup path = .ok (place, .file content)) :
    lastReplyAt fs f max path = .error .notText ↔ read f max content = none := by
  rw [lastReplyAt_of_file found]
  cases read f max content <;> simp

theorem lastReplyAt_eq_iff (found : fs.lookup path = .ok (place, .file content))
    (found' : fs'.lookup path' = .ok (place', .file without)) :
    lastReplyAt fs f max path = lastReplyAt fs' f max path' ↔
      read f max content = read f max without := by
  rw [lastReplyAt_of_file found, lastReplyAt_of_file found']
  cases read f max content <;> cases read f max without <;> simp

/-- **An unreadable line is skipped exactly if it is a text**, unless there is another line that
is not a text. A transcript with a line that is not a text cannot be read, and has no reply;
every other one can. -/
theorem unreadable_skipped_iff (f : Format) (max : Nat) (unreadable : Unreadable line)
    (made : content.MadeOf (before ++ line :: after)) (rest : without.MadeOf (before ++ after))
    (found : fs.lookup path = .ok (place, .file content))
    (found' : fs'.lookup path' = .ok (place', .file without)) :
    (lastReplyAt fs f max path = lastReplyAt fs' f max path' ↔
      IsText line ∨ ∃ piece ∈ before ++ after, ¬ IsText piece) ∧
    (¬ IsText line →
      lastReplyAt fs f max path = .error .notText ∧ replyAt? fs f max path = none) ∧
    ((∃ reply, lastReplyAt fs f max path = .ok reply) ↔
      ∀ piece ∈ before ++ line :: after, IsText piece) := by
  have broken (h : ¬ IsText line) : read f max content = none :=
    (read_eq_none_iff made).mpr fun all =>
      h (all line (List.mem_append_right _ List.mem_cons_self))
  refine ⟨?_, fun h => ?_, ?_⟩
  · rw [lastReplyAt_eq_iff found found']
    by_cases text : IsText line
    · exact iff_of_true (read_unreadable unreadable text made rest) (.inl text)
    · rw [broken text, eq_comm, read_eq_none_iff rest, or_iff_right text]
      push Not
      exact Iff.rfl
  · have refused := (lastReplyAt_eq_notText_iff found).mpr (broken h)
    exact ⟨refused, by rw [replyAt?, refused]⟩
  · simp only [lastReplyAt_eq_ok_iff found]
    rw [← Option.isSome_iff_exists, Option.isSome_iff_ne_none, Ne, read_eq_none_iff made, not_not]

/-- A transcript whose last line is cut off within a character cannot be read, though it can
without that line. -/
theorem unreadable_skipped_iff_cut :
    let user := utf8 "\x7b\"message\":\x7b\"role\":\"user\",\"content\":\"go\"\x7d\x7d"
    let reply := utf8 ("\x7b\"type\":\"assistant\",\"message\":" ++
      "\x7b\"content\":\"All tests pass.\"\x7d\x7d")
    let cut := utf8 "\x7b\"summary\":\"caf" ++ [0xC3]
    let readable := user ++ 0x0A :: (reply ++ [0x0A])
    let log (content : Bytes) : Files := { files := [(["log"], content)] }
    Unreadable cut ∧ ¬ IsText cut ∧
      lastReplyAt (log (readable ++ cut)) .claude 500 "/log" = .error .notText ∧
      lastReplyAt (log readable) .claude 500 "/log" = .ok (some "All tests pass.") := by
  intro user reply cut readable log
  have broken : ¬ IsText cut := by decide +kernel
  have unreadable : Unreadable cut := unreadable_of_not_isText broken
  have whole : ∀ line ∈ [user, reply, cut], 0x0A ∉ line := by decide +kernel
  have made : (readable ++ cut).MadeOf ([user, reply] ++ cut :: []) := by
    have last : cut.MadeOf [cut] := .last (whole cut (by simp)) (by decide)
    have more : (reply ++ 0x0A :: cut).MadeOf [reply, cut] := .line (whole reply (by simp)) last
    simpa [readable] using Bytes.MadeOf.line (whole user (by simp)) more
  have rest : readable.MadeOf ([user, reply] ++ []) := by
    have more : (reply ++ [0x0A]).MadeOf [reply] := .line (whole reply (by simp)) .nil
    exact .line (whole user (by simp)) more
  have there (content : Bytes) : (log content).lookup "/log" = .ok (["log"], .file content) := rfl
  obtain ⟨-, refused, -⟩ :=
    unreadable_skipped_iff .claude 500 unreadable made rest (there _) (there _)
  refine ⟨unreadable, broken, (refused broken).1, (lastReplyAt_eq_ok_iff (there _)).mpr ?_⟩
  decide +kernel

end file

end SessionWatch.Transcript
