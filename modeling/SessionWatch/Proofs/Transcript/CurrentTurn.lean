/-
# Only the current turn counts

The reply that is read of a transcript is found by searching from its end: the
first line met that says something is a reply, whose end is taken, or it is
the user's, and there is none yet. So nothing before a line of the user
matters, and lines that are passed over matter nowhere.

Key definitions: `Transcript.HasLines`, `Transcript.CurrentReply`.
Key theorems: `Transcript.lines?_eq_some_iff`, `Transcript.lastReply_append_user`,
`Transcript.lastReply_append_nothing`, `Transcript.currentReply_iff`,
`Transcript.only_current_turn_counts`.
-/
import SessionWatch.Proofs.Text.Pieces
import SessionWatch.Proofs.Transcript.Statement

namespace SessionWatch.Transcript

open Text (utf8)

/-! ### The lines of a content -/

/-- A content has these lines; only the last one may lack its line feed. -/
def HasLines (content : Bytes) (lines : List String) : Prop := content.MadeOf (lines.map utf8)

theorem lines?_eq_some_iff {content : Bytes} {lines : List String} :
    lines? content = some lines ↔ HasLines content lines := by
  rw [lines?, Text.mapM_ofUtf8?_eq_some_iff, HasLines, Bytes.madeOf_iff]

/-- The content with these lines, each of them with its line feed. -/
def contentOf (lines : List String) : Bytes := (lines.map utf8).flatMap (· ++ [0x0A])

theorem hasLines_contentOf {lines : List String} (whole : ∀ line ∈ lines, '\n' ∉ line.toList) :
    HasLines (contentOf lines) lines := by
  refine Bytes.madeOf_flatMap (List.forall_mem_map.mpr fun line h => ?_)
  exact Text.feed_not_mem_utf8 (whole line h)

theorem read_of_hasLines {content : Bytes} {lines : List String} (h : HasLines content lines)
    (f : Format) (max : Nat) :
    read f max content = some ((lastReply f lines).map (Text.tail · max)) := by
  rw [read, lines?_eq_some_iff.mpr h, Option.map_some]

/-! ### The last reply of some lines -/

section lastReply

variable {f : Format} {line u : String} {lines before after : List String} {text : String}

theorem lastReply_append (f : Format) (before after : List String) :
    lastReply f (before ++ after) =
      (after.filterMap (Entry.ofLine? f)).foldl follow (lastReply f before) := by
  rw [lastReply, List.filterMap_append, List.foldl_append, lastReply]

/-- **Nothing before a line of the user matters.** -/
theorem lastReply_append_user (said : SaysLine f u .user) (before after : List String) :
    lastReply f (before ++ u :: after) = lastReply f after := by
  rw [lastReply_append, List.filterMap_cons_some (ofLine?_eq_some_iff.mpr said), List.foldl_cons]
  rfl

/-- **A line that says nothing matters nowhere.** -/
theorem lastReply_append_nothing (silent : SaysNothing f line) (before after : List String) :
    lastReply f (before ++ line :: after) = lastReply f (before ++ after) := by
  rw [lastReply_append, List.filterMap_cons_none (ofLine?_eq_none_iff.mpr silent),
    lastReply_append]

/-- **At the end only lines that say something matter.** -/
theorem lastReply_append_silent (silent : ∀ line ∈ after, SaysNothing f line)
    (before : List String) : lastReply f (before ++ after) = lastReply f before := by
  have rest : after.filterMap (Entry.ofLine? f) = [] :=
    List.filterMap_eq_nil_iff.mpr fun line h => ofLine?_eq_none_iff.mpr (silent line h)
  rw [lastReply_append, rest, List.foldl_nil]

/-- A reply counts if nothing is said after it. -/
theorem lastReply_append_reply (said : SaysLine f line (.reply text))
    (silent : ∀ line ∈ after, SaysNothing f line) (before : List String) :
    lastReply f (before ++ line :: after) = some text := by
  rw [List.append_cons, lastReply_append_silent silent, lastReply_append,
    List.filterMap_cons_some (ofLine?_eq_some_iff.mpr said)]
  rfl

theorem lastReply_of_silent (silent : ∀ line ∈ lines, SaysNothing f line) :
    lastReply f lines = none :=
  lastReply_append_silent silent []

end lastReply

/-! ### Searching from the end -/

/-- The end of a text, of so many characters if it has as many. -/
structure IsEnd (max : Nat) (text ending : String) : Prop where
  suffix : ending.toList <:+ text.toList
  length : ending.toList.length = min max text.toList.length

theorem isEnd_iff {max : Nat} {text ending : String} :
    IsEnd max text ending ↔ ending = Text.tail text max := by
  constructor
  · intro h
    rw [← String.toList_inj, Text.toList_tail]
    have same : ending.toList.length = (Text.tailChars text.toList max).length := by
      rw [h.length, Text.length_tailChars]
    exact (List.suffix_of_suffix_length_le h.suffix (Text.tailChars_isSuffix _ _)
      (Nat.le_of_eq same)).eq_of_length same
  · rintro rfl
    constructor
    · rw [Text.toList_tail]
      exact Text.tailChars_isSuffix _ _
    · rw [Text.toList_tail, Text.length_tailChars]

/-- What a search from the end finds: the end of a reply after which nothing is said, or nothing,
if the user was the last to say something or nothing is said at all. -/
inductive CurrentReply (f : Format) (max : Nat) (lines : List String) : Option String → Prop where
  | nothing (silent : ∀ line ∈ lines, SaysNothing f line) : CurrentReply f max lines none
  | user {before after : List String} {line : String} (split : lines = before ++ line :: after)
      (said : SaysLine f line .user) (silent : ∀ line ∈ after, SaysNothing f line) :
      CurrentReply f max lines none
  | reply {before after : List String} {line text ending : String}
      (split : lines = before ++ line :: after) (said : SaysLine f line (.reply text))
      (silent : ∀ line ∈ after, SaysNothing f line) (ends : IsEnd max text ending) :
      CurrentReply f max lines (some ending)

/-- There is something to find. -/
theorem currentReply_lastReply (f : Format) (max : Nat) (lines : List String) :
    CurrentReply f max lines ((lastReply f lines).map (Text.tail · max)) := by
  rw [lastReply_eq_backward, lastReplyBackward]
  cases found : lines.reverse.findSome? (Entry.ofLine? f) with
  | none =>
    refine .nothing fun line h => ofLine?_eq_none_iff.mp ?_
    exact List.findSome?_eq_none_iff.mp found line (List.mem_reverse.mpr h)
  | some e =>
    obtain ⟨later, line, earlier, reversed, said, none⟩ := List.findSome?_eq_some_iff.mp found
    have split : lines = earlier.reverse ++ line :: later.reverse := by
      rw [← List.reverse_reverse lines, reversed]
      simp
    have silent : ∀ line ∈ later.reverse, SaysNothing f line := fun line h =>
      ofLine?_eq_none_iff.mp (none line (List.mem_reverse.mp h))
    rw [ofLine?_eq_some_iff] at said
    cases e with
    | user => exact .user split said silent
    | reply text => exact .reply split said silent (isEnd_iff.mpr rfl)

/-- **Reading forward finds what a search from the end finds.** -/
theorem currentReply_iff {f : Format} {max : Nat} {lines : List String} {r : Option String} :
    CurrentReply f max lines r ↔ r = (lastReply f lines).map (Text.tail · max) := by
  constructor
  · intro h
    cases h with
    | nothing silent => rw [lastReply_of_silent silent, Option.map_none]
    | user split said silent =>
      rw [split, lastReply_append_user said, lastReply_of_silent silent, Option.map_none]
    | reply split said silent ends =>
      rw [split, lastReply_append_reply said silent, Option.map_some, isEnd_iff.mp ends]
  · rintro rfl
    exact currentReply_lastReply f max lines

/-- **Only the current turn counts.** Of every text that is a transcript exactly that is read
which a search from its end finds. Whatever stands before a line of the user makes no difference,
and the result is that of the lines after it alone. Blank lines, lines that are not JSON, tool
results and replies without text make no difference wherever they stand. -/
theorem only_current_turn_counts (f : Format) (max : Nat) :
    (∀ s : String, ∃ lines, HasLines (utf8 s) lines ∧ ∃ r, read f max (utf8 s) = some r ∧
      ∀ r', CurrentReply f max lines r' ↔ r' = r) ∧
    (∀ u pre pre' post content content' alone, SaysLine f u .user →
      HasLines content (pre ++ u :: post) → HasLines content' (pre' ++ u :: post) →
      HasLines alone post →
      read f max content = read f max content' ∧ read f max content = read f max alone) ∧
    ∀ line pre post content content', PassedOver f line → HasLines content (pre ++ line :: post) →
      HasLines content' (pre ++ post) → read f max content = read f max content' := by
  refine ⟨fun s => ?_, ?_, ?_⟩
  · obtain ⟨lines, h⟩ := Text.exists_madeOf s
    exact ⟨lines, h, _, read_of_hasLines h f max, fun r => currentReply_iff⟩
  · intro u pre pre' post content content' alone said h h' hpost
    rw [read_of_hasLines h, read_of_hasLines h', read_of_hasLines hpost,
      lastReply_append_user said, lastReply_append_user said]
    exact ⟨rfl, rfl⟩
  · intro line pre post content content' passed h h'
    rw [read_of_hasLines h, read_of_hasLines h',
      lastReply_append_nothing passed.saysNothing]

/-- An old reply, a line of the user, tool results, a line that is not JSON and a reply of several
blocks, whose last three characters are read. -/
theorem only_current_turn_counts_second :
    let old := "\x7b\"type\":\"assistant\",\"message\":\x7b\"content\":\"old\"\x7d\x7d"
    let user := "\x7b\"message\":\x7b\"role\":\"user\",\"content\":\"go\"\x7d\x7d"
    let results := "\x7b\"type\":\"user\",\"message\":\x7b\"content\":" ++
      "[\x7b\"type\":\"tool_result\"\x7d]\x7d\x7d"
    let reply := "\x7b\"type\":\"assistant\",\"message\":\x7b\"content\":" ++
      "[\x7b\"type\":\"text\",\"text\":\"all né\"\x7d,\x7b\"type\":\"text\"\x7d]\x7d\x7d"
    SaysLine .claude user .user ∧ PassedOver .claude results ∧ PassedOver .claude "not \x7bJSON" ∧
      read .claude 3 (contentOf [old, user, results, "not \x7bJSON", reply]) = some (some " né") ∧
      read .claude 3 (contentOf [old, user]) = some none := by
  intro old user results reply
  have said : SaysLine .claude user .user := ofLine?_eq_some_iff.mp (by decide +kernel)
  have passed : PassedOver .claude results := by
    have evaluated : (Json.parse? (utf8 (Text.trim results))).any (fun v =>
        v.getString? "type" = some "user" && (content? v).any onlyToolResults) = true := by
      decide +kernel
    rw [Option.any_eq_true] at evaluated
    obtain ⟨v, json, h⟩ := evaluated
    rw [Bool.and_eq_true, decide_eq_true_eq, any_onlyToolResults_iff] at h
    obtain ⟨user, content, has, results⟩ := h
    exact .toolResults rfl json (.inl user) has results
  have refused : PassedOver .claude "not \x7bJSON" :=
    .notJson (Option.isNone_iff_eq_none.mp (by decide +kernel))
  have whole : ∀ line ∈ [old, user, results, "not \x7bJSON", reply], '\n' ∉ line.toList := by
    decide +kernel
  have lines (some : List String) (h : some ⊆ [old, user, results, "not \x7bJSON", reply]) :
      HasLines (contentOf some) some :=
    hasLines_contentOf fun line hl => whole line (h hl)
  obtain ⟨-, after_user, passing⟩ := only_current_turn_counts .claude 3
  refine ⟨said, passed, refused, ?_, ?_⟩
  · calc read .claude 3 (contentOf [old, user, results, "not \x7bJSON", reply])
        = read .claude 3 (contentOf [old, user, results, reply]) :=
          passing _ [old, user, results] [reply] _ _ refused (lines _ (by simp)) (lines _ (by simp))
      _ = read .claude 3 (contentOf [old, user, reply]) :=
          passing _ [old, user] [reply] _ _ passed (lines _ (by simp)) (lines _ (by simp))
      _ = read .claude 3 (contentOf [reply]) :=
          (after_user _ [old] [] [reply] _ (contentOf [user, reply]) _ said (lines _ (by simp))
            (lines _ (by simp)) (lines _ (by simp))).2
      _ = some (some " né") := by decide +kernel
  · exact (after_user _ [old] [] [] _ (contentOf [user]) [] said (lines _ (by simp))
      (lines _ (by simp)) .nil).2

end SessionWatch.Transcript
