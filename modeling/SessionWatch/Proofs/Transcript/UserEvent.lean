/-
# Where a turn starts

A line starts a turn if nothing before it matters, which is so exactly if the
user says something in it. An event with a message of the user is such a line
only if the message is a text that is not empty. Without one it is passed over,
and a reply from the turn before is read as if the user had said nothing.

Key definitions: `Transcript.StartsTurn`, `Transcript.HasMessage`.
Key theorems: `Transcript.startsTurn_iff`, `Transcript.userEvent_startsTurn_iff`.
-/
import SessionWatch.Proofs.Transcript.CurrentTurn

namespace SessionWatch.Transcript

open Text (utf8)

variable {f : Format} {u line : String} {v payload : Json}

/-- What is read of a transcript does not depend on the lines before this one. -/
def StartsTurn (f : Format) (line : String) : Prop :=
  ∀ max before after content alone, HasLines content (before ++ line :: after) →
    HasLines alone after → read f max content = read f max alone

/-- The message of an event is a text, and not empty. -/
def HasMessage (payload : Json) : Prop :=
  ∃ text, payload.getString? "message" = some text ∧ text ≠ ""

/-- In either format there is a line with a reply. -/
theorem exists_reply (f : Format) :
    ∃ line, '\n' ∉ line.toList ∧ SaysLine f line (.reply "old") := by
  cases f with
  | claude =>
    exact ⟨"\x7b\"type\":\"assistant\",\"message\":\x7b\"content\":\"old\"\x7d\x7d",
      by decide, ofLine?_eq_some_iff.mp (by decide +kernel)⟩
  | codex =>
    exact ⟨"\x7b\"type\":\"event_msg\",\"payload\":" ++
      "\x7b\"type\":\"agent_message\",\"message\":\"old\"\x7d\x7d",
      by decide, ofLine?_eq_some_iff.mp (by decide +kernel)⟩

/-- **A turn starts where the user says something**, and nowhere else. -/
theorem startsTurn_iff (whole : '\n' ∉ line.toList) :
    StartsTurn f line ↔ SaysLine f line .user := by
  constructor
  · intro starts
    obtain ⟨old, whole', reply⟩ := exists_reply f
    have lines : HasLines (contentOf [old, line]) ([old] ++ line :: []) :=
      hasLines_contentOf (List.forall_mem_cons.mpr ⟨whole', List.forall_mem_singleton.mpr whole⟩)
    have empty : HasLines [] [] := .nil
    have silent : lastReply f [old, line] = none := by
      have same := starts 1 [old] [] _ [] lines empty
      rw [read_of_hasLines lines, read_of_hasLines empty] at same
      exact Option.map_eq_none_iff.mp (Option.some.inj same)
    have at_end : ∀ line ∈ ([] : List String), SaysNothing f line := nofun
    -- the old reply is there unless the line says something, and another one is if it does
    cases entry : Entry.ofLine? f line with
    | none =>
      have alone := lastReply_append_nothing (ofLine?_eq_none_iff.mp entry) [old] []
      have found := lastReply_append_reply reply at_end []
      rw [List.singleton_append, silent] at alone
      cases alone.trans found
    | some e =>
      cases e with
      | user => exact ofLine?_eq_some_iff.mp entry
      | reply text =>
        have found := lastReply_append_reply (ofLine?_eq_some_iff.mp entry) at_end [old]
        cases silent.symm.trans found
  · intro said max before after content alone lines rest
    rw [read_of_hasLines lines, read_of_hasLines rest, lastReply_append_user said]

theorem hasMessage_iff : HasMessage payload ↔ (payload.getString? "message").getD "" ≠ "" := by
  rw [Ne, getD_eq_empty_iff, HasMessage]
  simp

/-- In an event with a message of the user something is said only if the message is a text. -/
theorem saysLine_userEvent (json : Json.parse? (utf8 (Text.trim u)) = some v)
    (event : IsEvent "user_message" v payload) {e : Entry} :
    SaysLine .codex u e ↔ HasMessage payload ∧ e = .user := by
  have entry : Entry.ofLine? .codex u =
      if (payload.getString? "message").getD "" = "" then none else some .user := by
    rw [Entry.ofLine?, json, Option.bind_some]
    exact (ofCodex?_of_event event).trans (by rw [if_pos rfl])
  rw [← ofLine?_eq_some_iff, entry, hasMessage_iff]
  by_cases silent : (payload.getString? "message").getD "" = ""
  · simp [silent]
  · rw [if_neg silent, Option.some_inj, and_iff_right silent]
    exact eq_comm

/-- **A message of the user that comes as an event starts a turn exactly if it has a text.** If it
has none, what is read is read as without it, so that of the turn before the reply is read unless
something is said later. -/
theorem userEvent_startsTurn_iff (whole : '\n' ∉ u.toList)
    (json : Json.parse? (utf8 (Text.trim u)) = some v) (event : IsEvent "user_message" v payload) :
    (StartsTurn .codex u ↔ HasMessage payload) ∧
    (¬ HasMessage payload → ∀ max pre post content, HasLines content (pre ++ u :: post) →
      (∀ without, HasLines without (pre ++ post) →
        read .codex max content = read .codex max without) ∧
      ∀ reply, lastReply .codex pre = some reply → (∀ line ∈ post, SaysNothing .codex line) →
        read .codex max content = some (some (Text.tail reply max))) := by
  refine ⟨?_, fun without_text max pre post content lines => ?_⟩
  · rw [startsTurn_iff whole, saysLine_userEvent json event]
    exact and_iff_left rfl
  · have silent : SaysNothing .codex u := fun e said =>
      without_text ((saysLine_userEvent json event).mp said).1
    rw [read_of_hasLines lines, lastReply_append_nothing silent]
    refine ⟨fun without lines' => (read_of_hasLines lines' _ _).symm, fun reply old later => ?_⟩
    rw [lastReply_append_silent later, old, Option.map_some]

/-- A picture without a word is no turn of its own: the reply to what was said before is read. -/
theorem userEvent_startsTurn_iff_picture :
    let reply := "\x7b\"type\":\"event_msg\",\"payload\":" ++
      "\x7b\"type\":\"agent_message\",\"message\":\"Done.\"\x7d\x7d"
    let picture := "\x7b\"type\":\"event_msg\",\"payload\":" ++
      "\x7b\"type\":\"user_message\",\"message\":\"\",\"images\":[\"a.png\"]\x7d\x7d"
    (∃ v payload, Json.parse? (utf8 (Text.trim picture)) = some v ∧
      IsEvent "user_message" v payload ∧ ¬ HasMessage payload) ∧
    ¬ StartsTurn .codex picture ∧
    read .codex 500 (contentOf [reply, picture]) = some (some "Done.") := by
  intro reply picture
  have evaluated : (Json.parse? (utf8 (Text.trim picture))).any (fun v =>
      v.getString? "type" = some "event_msg" && (v.get? "payload").any fun payload =>
        payload.getString? "type" = some "user_message" &&
          payload.getString? "message" = some "") = true := by
    decide +kernel
  simp only [Option.any_eq_true, Bool.and_eq_true, decide_eq_true_eq] at evaluated
  obtain ⟨v, json, type, payload, has, kind, empty⟩ := evaluated
  have event : IsEvent "user_message" v payload := ⟨type, has, kind⟩
  have wordless : ¬ HasMessage payload := by
    rw [hasMessage_iff, empty]
    exact fun h => h rfl
  have whole : ∀ line ∈ [reply, picture], '\n' ∉ line.toList := by decide +kernel
  have old : lastReply .codex [reply] = some "Done." := by decide +kernel
  obtain ⟨starts, passed⟩ := userEvent_startsTurn_iff (whole picture (by simp)) json event
  refine ⟨⟨v, payload, json, event, wordless⟩, mt starts.mp wordless, ?_⟩
  have lines : HasLines (contentOf [reply, picture]) ([reply] ++ picture :: []) :=
    hasLines_contentOf whole
  exact (passed wordless 500 [reply] [] _ lines).2 "Done." old nofun

end SessionWatch.Transcript
