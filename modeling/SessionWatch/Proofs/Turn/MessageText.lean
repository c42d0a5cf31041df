/-
# Where the text of a message comes from

A message that comes with the end of a turn is trimmed and then cut. One that
is read from a transcript is cut by the reader, and only then trimmed. For
most messages this makes no difference, but blanks at the cut or at the end of
a long message do: less of the message is read then, or nothing. What a
classifier is asked is the same exactly if the cut takes off only blanks or
leaves no blanks at the ends, and otherwise some classifier tells the two
apart.

Key definitions: `Turn.CutsAlike`, `Turn.HasReply`.
Key theorems: `Turn.messageText?_given`, `Turn.messageText?_filed`,
`Turn.clip?_eq_iff`, `Turn.texts_agree_iff`.
-/
import SessionWatch.Proofs.Roster.Revision
import SessionWatch.Proofs.Text.Trim
import SessionWatch.Proofs.Watch.Step
import SessionWatch.Transcript.File
import SessionWatch.Turn.End

namespace SessionWatch.Turn

/-- To cut a text before it is trimmed is the same as to cut it after: only blanks are cut off,
or no blanks are left at the ends. -/
def CutsAlike (max : Nat) (s : String) : Prop :=
  (Text.dropBlanks s.toList).length ≤ max ∨ Text.trim (Text.tail s max) = Text.tail s max

instance (max : Nat) (s : String) : Decidable (CutsAlike max s) :=
  inferInstanceAs (Decidable (_ ∨ _))

/-! ### The two texts -/

section text

variable {max : Nat} {a : Agent} {t : TurnEnd} {s s' : String}

theorem clip?_trim (max : Nat) (s : String) : clip? max (Text.trim s) = clip? max s := by
  rw [clip?, clip?, Text.trim_trim]

/-- Two texts are clipped to the same, or both to nothing, if their ends are the same. -/
theorem clip?_eq_clip? : clip? max s = clip? max s' ↔
    Text.tail (Text.trim s) max = Text.tail (Text.trim s') max := by
  simp only [clip?]
  constructor
  · intro h
    split at h <;> split at h
    · rename_i h₁ h₂
      rw [h₁, h₂]
    · cases h
    · cases h
    · exact Option.some.inj h
  · intro h
    rw [h]

/-- **A text and the cut text are clipped to the same exactly if they are cut alike.** -/
theorem clip?_tail_eq_iff : clip? max s = clip? max (Text.tail s max) ↔ CutsAlike max s := by
  rw [clip?_eq_clip?, Text.tail_trim_tail, eq_comm]
  exact Text.trim_tail_eq_iff s max

/-- What there is to read of a message that comes with the end of a turn. -/
theorem messageText?_given {read : TranscriptReader} (given : t.message = some s)
    (alone : t.transcriptPath = none ∨ Text.allBlank s = false) :
    messageText? read max a t = clip? max s := by
  have hbind : t.message.bind trimmed? = trimmed? s := by rw [given, Option.bind_some]
  by_cases hblank : Text.trim s = ""
  · have hno : trimmed? s = none := if_pos hblank
    have hpath : t.transcriptPath = none := by
      refine alone.resolve_right fun h => ?_
      rw [Text.trim_eq_empty_iff.mp hblank] at h
      cases h
    have hclip : clip? max s = none := by
      rw [clip?, hblank]
      exact if_pos (by simp [Text.tail, Text.tailChars])
    rw [messageText?, source?, hbind, hno, hpath, hclip]
    rfl
  · have hyes : trimmed? s = some (Text.trim s) := if_neg hblank
    rw [messageText?, source?, hbind, hyes]
    exact clip?_trim max s

/-- What there is to read of a message that the transcript has. -/
theorem messageText?_filed {read : TranscriptReader} {path path' : String} {f : Transcript.Format}
    (without : t.message = none) (named : t.transcriptPath = some path)
    (hpath : trimmed? path = some path') (agent : a.transcript? = some f) :
    messageText? read max a t = (read f max path').bind (clip? max) := by
  rw [messageText?, source?, without, named]
  simp only [Option.bind_none, transcriptText?, hpath, agent]

end text

/-! ### What becomes of them -/

/-- The content of the file at a path. -/
def fileAt? (fs : Files) (path : String) : Option Bytes :=
  match fs.lookup path with
  | .ok (_, .file content) => some content
  | _ => none

/-- The last reply in the transcript at a path is this text. -/
def HasReply (fs : Files) (f : Transcript.Format) (path reply : String) : Prop :=
  ((fileAt? fs path).bind Transcript.lines?).bind (Transcript.lastReply f) = some reply

instance (fs : Files) (f : Transcript.Format) (path reply : String) :
    Decidable (HasReply fs f path reply) :=
  inferInstanceAs (Decidable (_ = _))

theorem replyAt?_eq {fs : Files} {f : Transcript.Format} {path reply : String}
    (h : HasReply fs f path reply) (max : Nat) :
    Transcript.replyAt? fs f max path = some (Text.tail reply max) := by
  rw [HasReply, Option.bind_eq_some_iff] at h
  obtain ⟨lines, hlines, hreply⟩ := h
  obtain ⟨content, hfile, hlines⟩ := Option.bind_eq_some_iff.mp hlines
  unfold fileAt? at hfile
  split at hfile
  · rename_i hlookup
    obtain rfl := Option.some.inj hfile
    simp only [Transcript.replyAt?, Transcript.lastReplyAt, hlookup, Transcript.read, hlines,
      Option.map_some, hreply, Option.elim_some]
  · cases hfile

/-- The end of a turn is carried out by what it leads to. -/
theorem finish_congr {σ : Type} {outside : Outside σ} {config : ClassifierConfig} {w : Watch × σ}
    {t t' : TurnEnd} (hid : t.id = t'.id)
    (same : ∀ ticket, w.1.roster.beginStop t.id = .ok ticket →
      decide (outside.transcript w.2) config.maxMessageChars ticket.session t =
        decide (outside.transcript w.2) config.maxMessageChars ticket.session t') :
    finish outside config w t = finish outside config w t' := by
  unfold finish
  rw [← hid]
  cases h : w.1.roster.beginStop t.id with
  | error p => rfl
  | ok ticket => simp only [same ticket h]

/-- An outside in which nothing happens while a verdict is given. -/
def still (read : TranscriptReader) (verdict : Question → Verdict) : Outside Unit where
  now _ := (⟨⟨2024, 3, 1⟩, 43200, 0⟩, ())
  transcript _ := read
  consult q _ w := (.ok (verdict q), w)

/-- The state that a decision leads to by the verdicts. -/
def stateBy (verdict : Question → Verdict) : Decision → State
  | .settled s _ => s
  | .ask q => (verdict q).state

/-- When nothing happens meanwhile, the session is in the state that was found. -/
theorem state_finish_still {watch : Watch} (hw : watch.Sound) {t : TurnEnd} {e : Roster.Entry}
    (found : watch.roster.find? t.id = some e) (config : ClassifierConfig)
    (read : TranscriptReader) (verdict : Question → Verdict) :
    (finish (still read verdict) config (watch, ()) t).1.map Prod.fst =
      .ok (stateBy verdict (decide read config.maxMessageChars e.session t)) := by
  have hbegin : watch.roster.beginStop t.id = .ok ⟨e.session, e.revision⟩ := by
    rw [Roster.beginStop, found]
  have found' : watch.roster.find? e.session.id = some e := by rw [hw.roster.id_eq found, found]
  have hcommit (s : State) (now : Instant) :
      (watch.roster.commitStop ⟨e.session, e.revision⟩ s now).result = .ok (.committed s) := by
    simp [Roster.commitStop, found']
  cases hd : decide read config.maxMessageChars e.session t with
  | settled s why =>
    simp only [finish, hbegin, still, settle, Watch.commit, hcommit, hd]
    rfl
  | ask q =>
    simp only [finish, hbegin, still, settle, Watch.commit, hcommit, hd]
    rfl

/-- Without pending todos the decision depends on the text only. -/
theorem decide_of_text {read : TranscriptReader} {max : Nat} {s : Session} {t : TurnEnd}
    (idle : pendingCount s.todos = 0) :
    decide read max s t = (messageText? read max s.agent t).elim (.settled .idle .noMessage)
      fun text => .ask ⟨s.agent, text⟩ := by
  rw [decide, if_neg (by omega)]
  cases messageText? read max s.agent t <;> rfl

/-- The verdicts of a classifier that waits on one text only, or on all if there is none. -/
def waitsOn (text? : Option String) (q : Question) : Verdict :=
  if text? = none ∨ text? = some q.text then .waitingInput else .idle

/-- A classifier that waits on one text only tells it from any other. -/
theorem stateBy_waitsOn {a : Agent} {text? text'? : Option String}
    (same : stateBy (waitsOn text?) (text?.elim (.settled .idle .noMessage) fun x => .ask ⟨a, x⟩) =
      stateBy (waitsOn text?) (text'?.elim (.settled .idle .noMessage) fun x => .ask ⟨a, x⟩)) :
    text? = text'? := by
  cases text? with
  | none =>
    cases text'? with
    | none => rfl
    | some y => simp [stateBy, waitsOn, Verdict.state] at same
  | some x =>
    cases text'? with
    | none => simp [stateBy, waitsOn, Verdict.state] at same
    | some y =>
      by_cases hxy : x = y
      · rw [hxy]
      · simp [stateBy, waitsOn, Verdict.state, hxy] at same

/-- **The two sources of a text are treated alike exactly if it is cut alike.** A message that
comes with the end of a turn and the same message in the transcript are read as the same text
exactly then; then the end of the turn comes out the same whatever happens outside, and
otherwise there are classifiers that leave the session in different states. -/
theorem texts_agree_iff (capacity limit : Nat) (before : List Watch.Action) (fs : Files)
    (config : ClassifierConfig) (path path' reply : String) (f : Transcript.Format)
    (e : Roster.Entry) (given filed : TurnEnd)
    (registered : ((Watch.new capacity limit).run before).1.roster.find? given.id = some e)
    (agent : e.session.agent.transcript? = some f)
    (idle : pendingCount e.session.todos = 0)
    (message : given.message = some reply)
    (alone : given.transcriptPath = none ∨ Text.allBlank reply = false)
    (same_id : filed.id = given.id)
    (without : filed.message = none)
    (named : filed.transcriptPath = some path)
    (trimmed : trimmed? path = some path')
    (has : HasReply fs f path' reply) :
    let watch := ((Watch.new capacity limit).run before).1
    let read := Transcript.replyAt? fs
    let text := messageText? read config.maxMessageChars e.session.agent
    let agree := CutsAlike config.maxMessageChars reply
    (text given = text filed ↔ agree) ∧
    (agree → ∀ (σ : Type) (outside : Outside σ) (outer : σ), outside.transcript outer = read →
      finish outside config (watch, outer) given = finish outside config (watch, outer) filed) ∧
    ((∀ outside : Outside Unit, outside.transcript () = read →
      (finish outside config (watch, ()) given).1.map Prod.fst =
        (finish outside config (watch, ()) filed).1.map Prod.fst) → agree) := by
  intro watch read text agree
  have hw : watch.Sound := Watch.sound_run capacity limit before
  have hfiled : watch.roster.find? filed.id = some e := by rw [same_id]; exact registered
  have htext : text given = text filed ↔ agree := by
    show messageText? _ _ _ given = messageText? _ _ _ filed ↔ _
    have hread : read f config.maxMessageChars path' = _ := replyAt?_eq has _
    rw [messageText?_given message alone, messageText?_filed without named trimmed agent, hread,
      Option.bind_some, clip?_tail_eq_iff]
  refine ⟨htext, fun h σ outside outer hread => ?_, fun h => ?_⟩
  · refine finish_congr same_id.symm fun ticket hticket => ?_
    obtain ⟨e', found, rfl⟩ := Roster.beginStop_eq_ok hticket
    obtain rfl := Option.some.inj (registered.symm.trans found)
    have hsame : messageText? read _ e.session.agent given = messageText? read _ _ filed :=
      htext.mpr h
    rw [hread, decide_of_text idle, decide_of_text idle, hsame]
  · have hstates := h (still read (waitsOn (text given))) rfl
    rw [state_finish_still hw registered, state_finish_still hw hfiled, decide_of_text idle,
      decide_of_text idle] at hstates
    exact htext.mp (stateBy_waitsOn (Except.ok.inj hstates))

/-- Of a short message that ends in blanks nothing is read if it comes from the transcript. -/
theorem texts_agree_iff_blank_end :
    let line := "\x7b\"type\":\"event_msg\",\"payload\":\x7b\"type\":\"agent_message\"," ++
      "\"message\":\"ok  \"\x7d\x7d"
    let fs : Files := { files := [(["log"], Text.utf8 line)] }
    let given : TurnEnd := ⟨"one", none, some "ok  "⟩
    let filed : TurnEnd := ⟨"one", some "/log", none⟩
    HasReply fs .codex "/log" "ok  " ∧ ¬ CutsAlike 2 "ok  " ∧
      messageText? (Transcript.replyAt? fs) 2 .codex given ≠
        messageText? (Transcript.replyAt? fs) 2 .codex filed := by
  intro line fs given filed
  have has : HasReply fs .codex "/log" "ok  " := by decide +kernel
  have unlike : ¬ CutsAlike 2 "ok  " := by decide +kernel
  let register := Watch.Action.ask (.register ⟨"one", "first", "/src", .codex⟩)
    ⟨⟨2024, 3, 1⟩, 43200, 0⟩
  obtain ⟨iff, -, -⟩ := texts_agree_iff 1 1 [register] fs { maxMessageChars := 2 } "/log" "/log"
    "ok  " .codex _ given filed rfl rfl rfl rfl (.inl rfl) rfl rfl rfl (by decide +kernel) has
  exact ⟨has, unlike, fun h => unlike (iff.mp h)⟩

end SessionWatch.Turn
