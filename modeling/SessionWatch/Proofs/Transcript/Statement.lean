/-
# What the lines of a transcript say

What a line says is told by its fields. In the first format a line is
somebody's by its type or by the role of its message, and a line that is the
user's is not the agent's. In the second one it is an event or an item of a
response. The entry that is read of a line is what the line says; blank lines,
lines that are not JSON, tool results and replies without text say nothing.

Key definitions: `Transcript.Says`, `Transcript.SaysLine`, `Transcript.Wordless`,
`Transcript.PassedOver`.
Key theorems: `Transcript.contentText_eq_empty_iff`, `Transcript.ofJson?_eq_some_iff`,
`Transcript.ofLine?_eq_some_iff`, `Transcript.PassedOver.saysNothing`.
-/
import SessionWatch.Transcript.LastReply

namespace SessionWatch.Transcript

/-! ### Contents -/

section content

variable {content : Json}

/-- A block that has this text, which is not empty. -/
def IsTextBlock (block : Json) (text : String) : Prop :=
  (block.getString? "type" = some "text" ∨ block.getString? "type" = some "output_text") ∧
    block.getString? "text" = some text ∧ text ≠ ""

/-- A content without text: an empty text, blocks that have no text, or neither text nor blocks. -/
def Wordless : Json → Prop
  | .string text => text = ""
  | .array blocks => ∀ block ∈ blocks, ∀ text, ¬ IsTextBlock block text
  | _ => True

/-- A content of tool results and nothing else. -/
def IsToolResults (content : Json) : Prop :=
  ∃ blocks, content = .array blocks ∧ blocks ≠ [] ∧
    ∀ block ∈ blocks, block.getString? "type" = some "tool_result"

theorem blockText?_eq_some_iff {block : Json} {text : String} :
    blockText? block = some text ↔ IsTextBlock block text := by
  unfold blockText? IsTextBlock
  split
  · split <;> grind
  · split <;> grind
  · grind

theorem intercalate_eq_empty_iff {texts : List String} (there : ∀ text ∈ texts, text ≠ "") :
    "\n".intercalate texts = "" ↔ texts = [] := by
  cases texts with
  | nil => simp
  | cons text texts =>
    have first : text ≠ "" := there text List.mem_cons_self
    cases texts <;> simp [String.append_eq_empty_iff, first]

/-- **The text of a content is empty exactly if nothing in it is a text.** -/
theorem contentText_eq_empty_iff : contentText content = "" ↔ Wordless content := by
  unfold contentText
  split
  · exact Iff.rfl
  · rename_i blocks
    have there : ∀ text ∈ blocks.filterMap blockText?, text ≠ "" := by
      intro text found
      obtain ⟨block, -, found⟩ := List.mem_filterMap.mp found
      exact (blockText?_eq_some_iff.mp found).2.2
    rw [intercalate_eq_empty_iff there, List.filterMap_eq_nil_iff]
    refine forall₂_congr fun block _ => ?_
    rw [Option.eq_none_iff_forall_ne_some]
    exact forall_congr' fun text => not_congr blockText?_eq_some_iff
  · simp_all [Wordless]

theorem onlyToolResults_iff : onlyToolResults content = true ↔ IsToolResults content := by
  unfold onlyToolResults
  split <;> simp_all [IsToolResults]

theorem reply?_eq_some_iff {text : String} {e : Entry} :
    reply? text = some e ↔ text ≠ "" ∧ e = .reply text := by
  unfold reply?
  split <;> simp_all [eq_comm]

/-- What is replied in a content that may be missing is its text. -/
theorem reply?_content {content? : Option Json} {e : Entry} :
    reply? ((content?.map contentText).getD "") = some e ↔
      ∃ content, content? = some content ∧ ¬ Wordless content ∧ e = .reply (contentText content) := by
  rw [reply?_eq_some_iff]
  cases content? with
  | none => simp
  | some content => simp [contentText_eq_empty_iff]

end content

/-! ### Lines -/

section line

variable {f : Format} {v : Json} {e : Entry} {line : String}

/-- A value is somebody's in the first format. -/
def IsBy (who : String) (v : Json) : Prop :=
  v.getString? "type" = some who ∨ (v.get? "message").bind (·.getString? "role") = some who

/-- The content of a message in the first format. -/
def content? (v : Json) : Option Json := (v.get? "message").bind (·.get? "content")

/-- A value is an event of this kind in the second format. -/
structure IsEvent (kind : String) (v payload : Json) : Prop where
  type : v.getString? "type" = some "event_msg"
  has : v.get? "payload" = some payload
  kind : payload.getString? "type" = some kind

/-- A value is a message by somebody in a response of the second format. -/
structure IsMessage (who : String) (v payload : Json) : Prop where
  type : v.getString? "type" = some "response_item"
  has : v.get? "payload" = some payload
  kind : payload.getString? "type" = some "message"
  role : payload.getString? "role" = some who

/-- What a value says as a line of a transcript. -/
inductive Says : Format → Json → Entry → Prop where
  | claudeUser {v : Json} (user : IsBy "user" v)
      (own : ∀ content, content? v = some content → ¬ IsToolResults content) :
      Says .claude v .user
  | claudeReply {v content : Json} (user : ¬ IsBy "user" v) (agent : IsBy "assistant" v)
      (has : content? v = some content) (words : ¬ Wordless content) :
      Says .claude v (.reply (contentText content))
  | userEvent {v payload : Json} {text : String} (event : IsEvent "user_message" v payload)
      (has : payload.getString? "message" = some text) (there : text ≠ "") : Says .codex v .user
  | replyEvent {v payload : Json} {text : String} (event : IsEvent "agent_message" v payload)
      (has : payload.getString? "message" = some text) (there : text ≠ "") :
      Says .codex v (.reply text)
  | userMessage {v payload : Json} (message : IsMessage "user" v payload) : Says .codex v .user
  | replyMessage {v payload content : Json} (message : IsMessage "assistant" v payload)
      (has : payload.get? "content" = some content) (words : ¬ Wordless content) :
      Says .codex v (.reply (contentText content))

/-- What a line says: blanks around it do not count. -/
def SaysLine (f : Format) (line : String) (e : Entry) : Prop :=
  ∃ v, Json.parse? (Text.utf8 (Text.trim line)) = some v ∧ Says f v e

/-- A line that says nothing, and so is no entry. -/
def SaysNothing (f : Format) (line : String) : Prop := ∀ e, ¬ SaysLine f line e

/-- A reply without text. -/
inductive Silent : Format → Json → Prop where
  | claude {v : Json} (user : ¬ IsBy "user" v) (agent : IsBy "assistant" v)
      (silent : ∀ content, content? v = some content → Wordless content) : Silent .claude v
  | event {v payload : Json} (event : IsEvent "agent_message" v payload)
      (silent : ∀ text, payload.getString? "message" = some text → text = "") : Silent .codex v
  | message {v payload : Json} (message : IsMessage "assistant" v payload)
      (silent : ∀ content, payload.get? "content" = some content → Wordless content) :
      Silent .codex v

/-- Lines that are passed over: blank ones, ones that are not JSON, tool results in the first
format, and replies without text. -/
inductive PassedOver (f : Format) (line : String) : Prop where
  | blank (blank : Text.allBlank line = true)
  | notJson (refused : Json.parse? (Text.utf8 (Text.trim line)) = none)
  | toolResults {v content : Json} (format : f = .claude)
      (json : Json.parse? (Text.utf8 (Text.trim line)) = some v) (user : IsBy "user" v)
      (has : content? v = some content) (results : IsToolResults content)
  | silent {v : Json} (json : Json.parse? (Text.utf8 (Text.trim line)) = some v)
      (silent : Silent f v)

theorem ofClaude?_of_user (user : IsBy "user" v) :
    Entry.ofClaude? v = if (content? v).any onlyToolResults then none else some .user :=
  if_pos user

theorem ofClaude?_of_agent (user : ¬ IsBy "user" v) (agent : IsBy "assistant" v) :
    Entry.ofClaude? v = reply? (((content? v).map contentText).getD "") :=
  (if_neg user).trans (if_pos agent)

theorem ofClaude?_of_other (user : ¬ IsBy "user" v) (agent : ¬ IsBy "assistant" v) :
    Entry.ofClaude? v = none :=
  (if_neg user).trans (if_neg agent)

theorem any_onlyToolResults_iff : (content? v).any onlyToolResults = true ↔
    ∃ content, content? v = some content ∧ IsToolResults content := by
  rw [Option.any_eq_true]
  exact exists_congr fun content => and_congr_right fun _ => onlyToolResults_iff

theorem ofClaude?_eq_some_iff : Entry.ofClaude? v = some e ↔ Says .claude v e := by
  by_cases user : IsBy "user" v
  · rw [ofClaude?_of_user user]
    constructor
    · intro h
      split at h
      · cases h
      · rename_i own
        cases h
        refine .claudeUser user fun content has results => own ?_
        exact any_onlyToolResults_iff.mpr ⟨content, has, results⟩
    · intro said
      cases said with
      | claudeUser _ own =>
        refine if_neg fun results => ?_
        obtain ⟨content, has, results⟩ := any_onlyToolResults_iff.mp results
        exact own content has results
      | claudeReply notUser => exact absurd user notUser
  · by_cases agent : IsBy "assistant" v
    · rw [ofClaude?_of_agent user agent, reply?_content]
      constructor
      · rintro ⟨content, has, words, rfl⟩
        exact .claudeReply user agent has words
      · intro said
        cases said with
        | claudeUser isUser => exact absurd isUser user
        | claudeReply _ _ has words => exact ⟨_, has, words, rfl⟩
    · rw [ofClaude?_of_other user agent]
      refine ⟨nofun, fun said => ?_⟩
      cases said with
      | claudeUser isUser => exact absurd isUser user
      | claudeReply _ isAgent => exact absurd isAgent agent

theorem ofCodex?_of_message {who : String} {payload : Json} (message : IsMessage who v payload) :
    Entry.ofCodex? v = if who = "user" then some .user
      else if who = "assistant" then reply? (((payload.get? "content").map contentText).getD "")
      else none := by
  unfold Entry.ofCodex?
  simp only [message.type, message.has, message.kind, message.role, if_true]
  split
  · simp_all
  · simp_all
  · simp_all

/-- An event says something only with a text. -/
theorem ofCodex?_of_event {kind : String} {payload : Json} (event : IsEvent kind v payload) :
    Entry.ofCodex? v = if (payload.getString? "message").getD "" = "" then none
      else if kind = "user_message" then some .user
      else if kind = "agent_message" then some (.reply ((payload.getString? "message").getD ""))
      else none := by
  unfold Entry.ofCodex?
  simp only [event.type, event.has, event.kind]
  split
  · simp_all
  · simp_all
  · simp_all
  · simp_all

theorem eq_some_getD {message? : Option String} (there : message?.getD "" ≠ "") :
    message? = some (message?.getD "") := by
  cases message? with
  | none => exact absurd rfl there
  | some text => rfl

theorem getD_eq_empty_iff {message? : Option String} :
    message?.getD "" = "" ↔ ∀ text, message? = some text → text = "" := by
  cases message? <;> simp

theorem said_of_ofCodex? (h : Entry.ofCodex? v = some e) : Says .codex v e := by
  unfold Entry.ofCodex? at h
  split at h
  · rename_i payload has type
    split at h
    · cases h
    · cases h
      exact .userEvent ⟨type, has, ‹_›⟩ (eq_some_getD ‹_›) ‹_›
    · cases h
      exact .replyEvent ⟨type, has, ‹_›⟩ (eq_some_getD ‹_›) ‹_›
    · cases h
  · rename_i payload has type
    split at h
    · rename_i kind
      split at h
      · cases h
        exact .userMessage ⟨type, has, kind, ‹_›⟩
      · obtain ⟨content, has', words, rfl⟩ := reply?_content.mp h
        exact .replyMessage ⟨type, has, kind, ‹_›⟩ has' words
      · cases h
    · cases h
  · cases h

theorem ofCodex?_eq_some_iff : Entry.ofCodex? v = some e ↔ Says .codex v e := by
  refine ⟨said_of_ofCodex?, fun said => ?_⟩
  cases said with
  | userEvent event has there =>
    rw [ofCodex?_of_event event, has, Option.getD_some, if_neg there, if_pos rfl]
  | replyEvent event has there =>
    rw [ofCodex?_of_event event, has, Option.getD_some, if_neg there, if_neg (by decide),
      if_pos rfl]
  | userMessage message => rw [ofCodex?_of_message message, if_pos rfl]
  | replyMessage message has words =>
    rw [ofCodex?_of_message message, if_neg (by decide), if_pos rfl]
    exact reply?_content.mpr ⟨_, has, words, rfl⟩

/-- **The entry that is read of a value is what it says.** -/
theorem ofJson?_eq_some_iff : Entry.ofJson? f v = some e ↔ Says f v e := by
  cases f with
  | claude => exact ofClaude?_eq_some_iff
  | codex => exact ofCodex?_eq_some_iff

theorem ofLine?_eq_some_iff : Entry.ofLine? f line = some e ↔ SaysLine f line e := by
  unfold Entry.ofLine? SaysLine
  rw [Option.bind_eq_some_iff]
  exact exists_congr fun v => and_congr_right fun _ => ofJson?_eq_some_iff

/-- A reply without text says nothing. -/
theorem Silent.not_said (h : Silent f v) : ¬ Says f v e := by
  intro said
  cases h with
  | claude user agent silent =>
    cases said with
    | claudeUser isUser => exact user isUser
    | claudeReply _ _ has words => exact words (silent _ has)
  | event event silent =>
    rw [← ofCodex?_eq_some_iff, ofCodex?_of_event event,
      if_pos (getD_eq_empty_iff.mpr silent)] at said
    cases said
  | message message silent =>
    rw [← ofCodex?_eq_some_iff, ofCodex?_of_message message, if_neg (by decide), if_pos rfl,
      reply?_content] at said
    obtain ⟨content, has, words, -⟩ := said
    exact words (silent content has)

theorem IsToolResults.not_said {content : Json} (user : IsBy "user" v)
    (has : content? v = some content) (results : IsToolResults content) : ¬ Says .claude v e := by
  intro said
  cases said with
  | claudeUser _ own => exact own content has results
  | claudeReply notUser => exact notUser user

theorem ofLine?_eq_none_iff : Entry.ofLine? f line = none ↔ SaysNothing f line := by
  rw [Option.eq_none_iff_forall_ne_some]
  exact forall_congr' fun e => not_congr ofLine?_eq_some_iff

/-- **Lines that are passed over say nothing.** -/
theorem PassedOver.saysNothing (h : PassedOver f line) : SaysNothing f line := by
  rintro e ⟨v, json, said⟩
  cases h with
  | blank blank =>
    rw [Text.trim_eq_empty_iff.mpr blank] at json
    cases json
  | notJson refused =>
    rw [refused] at json
    cases json
  | toolResults format json' user has results =>
    obtain rfl := Option.some.inj (json'.symm.trans json)
    subst format
    exact results.not_said user has said
  | silent json' silent =>
    obtain rfl := Option.some.inj (json'.symm.trans json)
    exact silent.not_said said

end line

end SessionWatch.Transcript
