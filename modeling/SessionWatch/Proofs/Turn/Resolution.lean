/-
# How the end of a turn is resolved

A classifier is asked once or not at all, and it is asked exactly if the
session is there, none of its todos is pending and the turn ended with a text
that is not blank. It gets the end of that text. What it says decides the
state that is tried; without a verdict the session is idle. All of this is
settled by the session as it was when the turn ended, whatever others do while
the classifier is asked. They matter for one thing only, the commit: it is
refused if the session is gone by then, and comes to nothing if its state was
set in the meantime.

To count what classifiers are asked the backends are made to keep a record.

Key definitions: `Consultation`, `Outside.recording`, `Turn.Source`,
`Turn.Unclear`, `Turn.PutDown`.
Key theorems: `Turn.source?_eq_some_iff`, `Turn.decide_cases`,
`Turn.finish_of_found`, `Turn.resolution_governed`.
-/
import SessionWatch.Proofs.Connection.Reached
import SessionWatch.Proofs.Roster.Revision
import SessionWatch.Proofs.Text.Trim
import SessionWatch.Turn.End

namespace SessionWatch

variable {σ : Type}

/-! ### A record of what is asked -/

/-- What a backend is asked. -/
structure Consultation where
  backend : Backend
  text : String
  timeoutMs : Nat
  deriving DecidableEq

/-- What a backend answers, and what there is when it has answered. -/
def Backends.answer (backends : Backends σ) (c : Consultation) (w : Watch × σ) :
    Except Classifier.Fault Verdict × Watch × σ :=
  backends c.backend c.text c.timeoutMs w

/-- While backends are asked, others let actions take place only. -/
def Backends.Orderly (backends : Backends σ) : Prop :=
  ∀ c w s, Watch.Leads w (backends.answer c (w, s)).2.1

/-- The backends, which also put down what they are asked. -/
def Backends.recorded (backends : Backends σ) : Backends (σ × List Consultation) :=
  fun backend text timeoutMs (w, s, asked) =>
    let c : Consultation := ⟨backend, text, timeoutMs⟩
    let (answer, w, s) := backends.answer c (w, s)
    (answer, w, s, asked ++ [c])

/-- The outside of a daemon whose backends keep a record. -/
def Outside.recording (now : σ → Instant × σ) (transcript : σ → TranscriptReader)
    (backends : Backends σ) (config : ClassifierConfig) : Outside (σ × List Consultation) where
  now := fun (s, asked) => ((now s).1, (now s).2, asked)
  transcript := fun (s, _) => transcript s
  consult := backends.recorded.consult config

namespace Turn

/-! ### The text that a turn ended with -/

/-- The text that a turn ended with: its message, trimmed, unless that is blank, and else what
the agent's transcript at the path, which is not blank either, is read to have as the last
reply. -/
def Source (read : TranscriptReader) (max : Nat) (a : Agent) (t : TurnEnd) (text : String) :
    Prop :=
  (∃ m, t.message = some m ∧ Text.allBlank m = false ∧ text = Text.trim m) ∨
  ((∀ m, t.message = some m → Text.allBlank m = true) ∧
    ∃ path f, t.transcriptPath = some path ∧ Text.allBlank path = false ∧
      a.transcript? = some f ∧ read f max (Text.trim path) = some text)

section source

variable {read : TranscriptReader} {max : Nat} {a : Agent} {t : TurnEnd} {s text : String}

theorem trimmed?_eq_some_iff :
    trimmed? s = some text ↔ Text.allBlank s = false ∧ text = Text.trim s := by
  unfold trimmed?
  rw [← Bool.not_eq_true, ← Text.trim_eq_empty_iff]
  by_cases h : Text.trim s = ""
  · simp [h]
  · simp [h, eq_comm]

theorem trimmed?_eq_none_iff : trimmed? s = none ↔ Text.allBlank s = true := by
  unfold trimmed?
  rw [← Text.trim_eq_empty_iff]
  by_cases h : Text.trim s = "" <;> simp [h]

theorem transcriptText?_eq_some_iff {path : String} :
    transcriptText? read max a path = some text ↔
      ∃ f, Text.allBlank path = false ∧ a.transcript? = some f ∧
        read f max (Text.trim path) = some text := by
  unfold transcriptText?
  cases hp : trimmed? path with
  | none =>
    have blank := trimmed?_eq_none_iff.mp hp
    simp [blank]
  | some path' =>
    obtain ⟨shown, rfl⟩ := trimmed?_eq_some_iff.mp hp
    cases hf : a.transcript? with
    | none => simp
    | some f => simp [shown]

/-- **Where the text of a message comes from.** -/
theorem source?_eq_some_iff : source? read max a t = some text ↔ Source read max a t text := by
  unfold source? Source
  cases hm : t.message.bind trimmed? with
  | some m =>
    obtain ⟨m', hm', hs⟩ := Option.bind_eq_some_iff.mp hm
    obtain ⟨shown, rfl⟩ := trimmed?_eq_some_iff.mp hs
    have given : (∃ m, t.message = some m ∧ Text.allBlank m = false ∧ text = Text.trim m) ↔
        text = Text.trim m' := by
      rw [hm']
      constructor
      · rintro ⟨m, h, -, rfl⟩
        rw [Option.some.inj h]
      · exact fun h => ⟨m', rfl, shown, h⟩
    have not_filed : ¬ ∀ m, t.message = some m → Text.allBlank m = true := fun h => by
      rw [h m' hm'] at shown
      cases shown
    rw [given, or_iff_left (fun h => not_filed h.1), Option.some_inj, eq_comm]
  | none =>
    have blank : ∀ m, t.message = some m → Text.allBlank m = true := fun m h => by
      rw [h, Option.bind_some] at hm
      exact trimmed?_eq_none_iff.mp hm
    have without : ¬ ∃ m, t.message = some m ∧ Text.allBlank m = false ∧ text = Text.trim m := by
      rintro ⟨m, h, shown, -⟩
      rw [blank m h] at shown
      cases shown
    rw [or_iff_right without, and_iff_right blank]
    cases hp : t.transcriptPath with
    | none => simp
    | some path => simp [transcriptText?_eq_some_iff]

end source

/-! ### The end of a text -/

section clip

variable {max : Nat} {s text : String}

/-- A text has something at its end unless it is blank. -/
theorem clip?_eq_none_iff (room : 1 ≤ max) : clip? max s = none ↔ Text.allBlank s = true := by
  rw [← Text.trim_eq_empty_iff]
  have kept : Text.tail (Text.trim s) max = "" ↔ Text.trim s = "" := by
    have hlen := Text.length_tailChars (Text.trim s).toList max
    rw [← String.toList_inj, ← String.toList_inj, Text.toList_tail, String.toList_empty,
      ← List.length_eq_zero_iff, ← List.length_eq_zero_iff]
    omega
  rw [← kept, clip?]
  by_cases h : Text.tail (Text.trim s) max = "" <;> simp [h]

/-- What is read of a text is not empty, short enough and the end of it. -/
theorem clip?_eq_some (h : clip? max s = some text) :
    text ≠ "" ∧ text.length ≤ max ∧ text.toList <:+ (Text.trim s).toList := by
  unfold clip? at h
  dsimp only at h
  split at h
  · cases h
  · rename_i left
    obtain rfl := Option.some.inj h
    refine ⟨left, ?_, ?_⟩
    · rw [← String.length_toList, Text.toList_tail, Text.length_tailChars]
      omega
    · rw [Text.toList_tail]
      exact Text.tailChars_isSuffix _ _

end clip

/-! ### The decision -/

section decision

variable {read : TranscriptReader} {max : Nat} {s : Session} {t : TurnEnd}

/-- **What the end of a turn leads to**: pending todos come first, then nothing to read, and else
the end of the text is asked about. -/
theorem decide_cases (room : 1 ≤ max) (read : TranscriptReader) (s : Session) (t : TurnEnd) :
    (0 < pendingCount s.todos ∧ decide read max s t = .settled .waitingInput .pendingTodos) ∨
    (pendingCount s.todos = 0 ∧
      (∀ text, Source read max s.agent t text → Text.allBlank text = true) ∧
      decide read max s t = .settled .idle .noMessage) ∨
    (pendingCount s.todos = 0 ∧ ∃ text kept, Source read max s.agent t text ∧
      Text.allBlank text = false ∧ clip? max text = some kept ∧
      decide read max s t = .ask ⟨s.agent, kept⟩) := by
  unfold decide
  by_cases pending : 0 < pendingCount s.todos
  · exact .inl ⟨pending, if_pos pending⟩
  · have none_pending : pendingCount s.todos = 0 := by omega
    rw [if_neg pending]
    cases hs : source? read max s.agent t with
    | none =>
      refine .inr (.inl ⟨none_pending, fun text h => ?_, by rw [messageText?, hs]; rfl⟩)
      rw [source?_eq_some_iff.mpr h] at hs
      cases hs
    | some text =>
      have source := source?_eq_some_iff.mp hs
      have only {text' : String} (h : Source read max s.agent t text') : text' = text :=
        Option.some.inj ((source?_eq_some_iff.mpr h).symm.trans hs)
      cases hc : clip? max text with
      | none =>
        have blank := (clip?_eq_none_iff room).mp hc
        refine .inr (.inl ⟨none_pending, fun text' h => ?_, ?_⟩)
        · rw [only h, blank]
        · rw [messageText?, hs, Option.bind_some, hc]
      | some kept =>
        have shown : Text.allBlank text = false := by
          rw [← Bool.not_eq_true, ← clip?_eq_none_iff room, hc]
          exact Option.some_ne_none kept
        refine .inr (.inr ⟨none_pending, text, kept, source, shown, hc, ?_⟩)
        rw [messageText?, hs, Option.bind_some, hc]

end decision

/-! ### The commit -/

/-- What becomes of a state that is settled for a session, in the watch that there is by then. The
answer is the state that the session is in afterwards: the one that was settled, unless the
session's state was set since, and a refusal if the session is gone. -/
def PutDown (id : String) (e : Roster.Entry) (resolved : State) (settled : Watch)
    (answer : Except Problem (State × Report)) (left : Watch) : Prop :=
  (∃ now, left = (settled.act (.ask (.commitStop ⟨e.session, e.revision⟩ resolved) now)).1) ∧
  match settled.roster.find? id with
  | none => answer = .error (.unknownSession id)
  | some e' =>
    let s := if e'.revision = e.revision then resolved else e'.session.state
    ∃ why, answer = .ok (s, ⟨resolved, why, e'.revision ≠ e.revision⟩) ∧
      (left.roster.find? id).map (·.session.state) = some s

section commit

variable (outside : Outside σ) (config : ClassifierConfig) {w : Watch × σ} {t : TurnEnd}
  {e : Roster.Entry}

/-- Whatever a classifier says but that the session waits leaves it idle. -/
theorem ofVerdict_of_ne {answer : Except Classifier.Fault Verdict}
    (h : answer ≠ .ok .waitingInput) : (ofVerdict answer).1 = .idle := by
  cases answer with
  | error => rfl
  | ok v =>
    cases v with
    | idle => rfl
    | waitingInput => exact absurd rfl h

theorem finish_of_absent (absent : w.1.roster.find? t.id = none) :
    finish outside config w t = (.error (.unknownSession t.id), w) := by
  rw [finish, Roster.beginStop, absent]

/-- **The end of a turn of a session that is there** is a commit on the watch that there is once
the state is settled. -/
theorem finish_of_found (found : w.1.roster.find? t.id = some e) (id : e.session.id = t.id)
    {resolved : State} {why : Reason} {settled : Watch} {outer : σ}
    (settles : settle outside config w
      (decide (outside.transcript w.2) config.maxMessageChars e.session t) =
        ((resolved, why), settled, outer)) :
    let finished := finish outside config w t
    finished.2.2 = (outside.now outer).2 ∧
      PutDown t.id e resolved settled finished.1 finished.2.1 := by
  intro finished
  have begun : w.1.roster.beginStop t.id = .ok ⟨e.session, e.revision⟩ := by
    rw [Roster.beginStop, found]
  let committed := settled.commit
    (settled.roster.commitStop ⟨e.session, e.revision⟩ resolved (outside.now outer).1)
  have finished_eq : finished = (committed.2.map fun r =>
      (r.state, ⟨resolved, why, r ≠ .committed resolved⟩), committed.1, (outside.now outer).2) := by
    show finish outside config w t = _
    simp only [finish, begun, settles, committed]
    split <;> rename_i h <;> rw [h] <;> rfl
  refine ⟨by rw [finished_eq], ⟨(outside.now outer).1, by rw [finished_eq]; rfl⟩, ?_⟩
  cases hs : settled.roster.find? t.id with
  | none =>
    have refused : committed.2 = .error (.unknownSession t.id) := by
      simp only [committed, Watch.commit, Roster.commitStop, Roster.find?_nextRevision, id, hs]
      rfl
    rw [finished_eq, refused]
    rfl
  | some e' =>
    by_cases same : e'.revision = e.revision
    · have put : committed.2 = .ok (.committed resolved) ∧
          committed.1.roster.find? t.id =
            some (e'.withState resolved (settled.roster.lastRevision + 1)
              (outside.now outer).1) := by
        simp only [committed, Watch.commit, Watch.roster_tell, Roster.commitStop,
          Roster.find?_nextRevision, id, hs, if_pos same, Roster.putState, Roster.find?_put]
        exact ⟨trivial, rfl⟩
      rw [finished_eq, put.1]
      simp only [if_pos same, put.2]
      exact ⟨why, by simp [Except.map, Roster.StopResult.state, same], rfl⟩
    · have left : committed.2 = .ok (.superseded e'.session.state) ∧
          committed.1.roster.find? t.id = some e' := by
        simp only [committed, Watch.commit, Watch.roster_tell, Roster.commitStop,
          Roster.find?_nextRevision, id, hs, if_neg same]
        exact ⟨trivial, trivial⟩
      rw [finished_eq, left.1]
      simp only [if_neg same, left.2]
      exact ⟨why, by simp [Except.map, Roster.StopResult.state, same], rfl⟩

end commit

/-! ### Whatever classifiers do -/

section recording

variable (now : σ → Instant × σ) (transcript : σ → TranscriptReader) (backends : Backends σ)
  (config : ClassifierConfig)

section outcome

variable {w : Watch} {outer : σ} {t : TurnEnd} {e : Roster.Entry}
  (found : w.roster.find? t.id = some e) (id : e.session.id = t.id)

include found id

/-- Nothing is asked if the state is settled as it is. -/
theorem finish_settled {s : State} {why : Reason}
    (decided : decide (transcript outer) config.maxMessageChars e.session t = .settled s why) :
    let finished := finish (.recording now transcript backends config) config (w, outer, []) t
    finished.2.2.2 = [] ∧ PutDown t.id e s w finished.1 finished.2.1 := by
  intro finished
  let outside := Outside.recording now transcript backends config
  have settles : settle outside config (w, outer, []) (decide (outside.transcript (outer, []))
      config.maxMessageChars e.session t) = ((s, why), w, outer, []) :=
    congrArg (settle outside config (w, outer, [])) decided
  obtain ⟨rest, put⟩ := finish_of_found outside config found id settles
  exact ⟨congrArg Prod.snd rest, put⟩

/-- A question goes to the backend for its agent, and the answer settles the state. -/
theorem finish_asked {q : Question}
    (decided : decide (transcript outer) config.maxMessageChars e.session t = .ask q) :
    let finished := finish (.recording now transcript backends config) config (w, outer, []) t
    let c : Consultation := ⟨.forAgent config q.agent, q.text, config.timeoutSecs * 1000⟩
    let answered := backends.answer c (w, outer)
    finished.2.2.2 = [c] ∧
      PutDown t.id e (ofVerdict answered.1).1 answered.2.1 finished.1 finished.2.1 := by
  intro finished c answered
  let outside := Outside.recording now transcript backends config
  have settles : settle outside config (w, outer, []) (decide (outside.transcript (outer, []))
      config.maxMessageChars e.session t) =
        (ofVerdict answered.1, answered.2.1, answered.2.2, [c]) :=
    congrArg (settle outside config (w, outer, [])) decided
  obtain ⟨rest, put⟩ := finish_of_found outside config found id settles
  exact ⟨congrArg Prod.snd rest, put⟩

end outcome

/-- The end of a turn that there is something to ask about: the session is there and has no
pending todo, and the turn ended with a text that is not blank. -/
structure Unclear (roster : Roster) (read : TranscriptReader) (max : Nat) (t : TurnEnd)
    (e : Roster.Entry) (text : String) : Prop where
  found : roster.find? t.id = some e
  done : pendingCount e.session.todos = 0
  source : Source read max e.session.agent t text
  shown : Text.allBlank text = false

/-- **What comes of the end of a turn**, in any daemon whose watch is one that a run leads to, and
whatever classifiers answer and others do in the meantime.

At most one question is asked, and one is asked if and only if the session is there, none of its
todos is pending and the turn ended with a text that is not blank. It goes to the backend that is
configured for the agent of the session, and it is about the end of the text.

The session waits for an answer if a todo is pending or the verdict is that it does, and is idle
otherwise. This state is put down in the watch that there is when the verdict is given, and an
error comes of it only if the session is not there, at the start or by then. Otherwise the answer
is the state that the session is in at last, which is another one only if it was set since. -/
theorem resolution_governed (room : 1 ≤ config.maxMessageChars) (orderly : backends.Orderly)
    (capacity limit : Nat) (before : List Watch.Action) (outer : σ) (t : TurnEnd) :
    let watch := ((Watch.new capacity limit).run before).1
    let finished := finish (.recording now transcript backends config) config
      (watch, outer, []) t
    let asked := finished.2.2.2
    let unclear := Unclear watch.roster (transcript outer) config.maxMessageChars t
    asked.length ≤ 1 ∧
    (asked ≠ [] ↔ ∃ e text, unclear e text) ∧
    (∀ c ∈ asked, ∃ e text, unclear e text ∧
      c.backend = .forAgent config e.session.agent ∧ c.text ≠ "" ∧
      c.text.length ≤ config.maxMessageChars ∧ c.text.toList <:+ (Text.trim text).toList) ∧
    (watch.roster.find? t.id = none →
      finished.1 = .error (.unknownSession t.id) ∧ finished.2.1 = watch) ∧
    ∀ e, watch.roster.find? t.id = some e →
      let answers := asked.map fun c => backends.answer c (watch, outer)
      let waits := 0 < pendingCount e.session.todos ∨ ∃ a ∈ answers, a.1 = .ok .waitingInput
      let settled := (answers.head?.map (·.2.1)).getD watch
      watch.Leads settled ∧ ∃ resolved, (waits → resolved = .waitingInput) ∧
        (¬ waits → resolved = .idle) ∧
        PutDown t.id e resolved settled finished.1 finished.2.1 := by
  intro watch finished asked unclear
  have sound : watch.Sound := Watch.sound_run capacity limit before
  cases hf : watch.roster.find? t.id with
  | none =>
    have absent : finished = (.error (.unknownSession t.id), watch, outer, []) :=
      finish_of_absent _ config hf
    have unasked : asked = [] := congrArg (·.2.2.2) absent
    have clear : ¬ ∃ e text, unclear e text := by
      rintro ⟨e, text, h⟩
      cases hf.symm.trans h.found
    rw [unasked]
    exact ⟨by simp, by simp [clear], by simp,
      fun _ => ⟨congrArg (·.1) absent, congrArg (·.2.1) absent⟩, nofun⟩
  | some e =>
    have id := sound.roster.id_eq hf
    have only {e' : Roster.Entry} {text : String} (h : unclear e' text) : e' = e :=
      Option.some.inj (h.found.symm.trans hf)
    rcases decide_cases room (transcript outer) e.session t with
      ⟨pending, decided⟩ | ⟨done, blank, decided⟩ |
      ⟨done, text, kept, source, shown, clipped, decided⟩
    · obtain ⟨unasked, put⟩ := finish_settled now transcript backends config hf id decided
      have clear : ¬ ∃ e text, unclear e text := by
        rintro ⟨e', text, h⟩
        obtain rfl := only h
        have := h.done
        omega
      rw [show asked = [] from unasked]
      refine ⟨by simp, by simp [clear], by simp, nofun, ?_⟩
      rintro _ ⟨⟩
      exact ⟨.refl watch, .waitingInput, fun _ => rfl, fun h => absurd (.inl pending) h, put⟩
    · obtain ⟨unasked, put⟩ := finish_settled now transcript backends config hf id decided
      have clear : ¬ ∃ e text, unclear e text := by
        rintro ⟨e', text, h⟩
        obtain rfl := only h
        have := blank text h.source
        rw [h.shown] at this
        cases this
      rw [show asked = [] from unasked]
      refine ⟨by simp, by simp [clear], by simp, nofun, ?_⟩
      rintro _ ⟨⟩
      refine ⟨.refl watch, .idle, fun h => ?_, fun _ => rfl, put⟩
      simp [done] at h
    · obtain ⟨one, put⟩ := finish_asked now transcript backends config hf id decided
      have open_question : unclear e text := ⟨hf, done, source, shown⟩
      obtain ⟨left, short, suffix⟩ := clip?_eq_some clipped
      let c : Consultation := ⟨.forAgent config e.session.agent, kept, config.timeoutSecs * 1000⟩
      rw [show asked = [c] from one]
      refine ⟨by simp, ⟨fun _ => ⟨e, text, open_question⟩, fun _ => List.cons_ne_nil _ _⟩, ?_,
        nofun, ?_⟩
      · intro c' hc'
        obtain rfl := List.mem_singleton.mp hc'
        exact ⟨e, text, open_question, rfl, left, short, suffix⟩
      · rintro _ ⟨⟩
        refine ⟨orderly c watch outer, _, fun h => ?_, fun h => ?_, put⟩
        · rcases h with pending | ⟨a, ha, verdict⟩
          · omega
          · obtain rfl := List.mem_singleton.mp ha
            rw [show (backends.answer c (watch, outer)).1 = _ from verdict]
            rfl
        · exact ofVerdict_of_ne fun verdict => h (.inr ⟨_, List.mem_singleton.mpr rfl, verdict⟩)

/-- The todos of a session are done, and it is set to work while a classifier reads the end of
its message. That stays, and the verdict is told along. -/
theorem resolution_governed_late :
    let noon : Instant := ⟨⟨2024, 3, 1⟩, 43200, 0⟩
    let ask (r : Roster.Request) : Watch.Action := .ask r noon
    let backends : Backends Unit := fun _ _ _ (w, s) =>
      (.ok .waitingInput, (w.act (ask (.setState "one" .working))).1, s)
    let config : ClassifierConfig := { maxMessageChars := 5 }
    let before := [ask (.register ⟨"one", "", "/src", .claude⟩), ask (.setTodos "one" ["[✓] a"])]
    let watch := ((Watch.new 8 1).run before).1
    let t : TurnEnd := ⟨"one", none, some " All done? "⟩
    let outside := Outside.recording (fun s => (noon, s)) (fun _ _ _ _ => none) backends config
    let finished := finish outside config (watch, (), []) t
    1 ≤ config.maxMessageChars ∧ backends.Orderly ∧
      (∃ c, finished.2.2.2 = [c] ∧ c.text.length ≤ 5 ∧ c.text.toList <:+ "All done?".toList) ∧
      ∃ why, finished.1 = .ok (.working, ⟨.waitingInput, why, true⟩) := by
  intro noon ask backends config before watch t outside finished
  have room : 1 ≤ config.maxMessageChars := by decide
  have orderly : backends.Orderly := fun _ w _ => w.leads_act (ask (.setState "one" .working))
  let e : Roster.Entry := ⟨{ Session.fresh ⟨"one", "", "/src", .claude⟩ noon with
    todos := ["[✓] a"] }, 1⟩
  have found : watch.roster.find? "one" = some e := rfl
  have unclear : Unclear watch.roster (fun _ _ _ => none) 5 t e "All done?" :=
    ⟨found, by decide, .inl ⟨" All done? ", rfl, by decide, by decide⟩, by decide⟩
  obtain ⟨once, iff, about, -, outcome⟩ := resolution_governed (fun s => (noon, s))
    (fun _ _ _ _ => none) backends config room orderly 8 1 before () t
  obtain ⟨c, asked⟩ : ∃ c, finished.2.2.2 = [c] := by
    have some_asked : finished.2.2.2 ≠ [] := iff.mpr ⟨e, "All done?", unclear⟩
    have positive := List.length_pos_iff.mpr some_asked
    exact List.length_eq_one_iff.mp (Nat.le_antisymm once positive)
  have mem : c ∈ finished.2.2.2 := by simp [asked]
  obtain ⟨-, resolved, waits, -, put⟩ := outcome e found
  obtain rfl : resolved = .waitingInput :=
    waits (.inr ⟨_, List.mem_map_of_mem mem, rfl⟩)
  refine ⟨room, orderly, ⟨c, asked, ?_⟩, ?_⟩
  · obtain ⟨e', text, unclear', -, -, short, suffix⟩ := about c mem
    obtain rfl : e' = e := Option.some.inj (unclear'.found.symm.trans found)
    obtain rfl : text = "All done?" := Option.some.inj
      ((source?_eq_some_iff.mpr unclear'.source).symm.trans
        (source?_eq_some_iff.mpr unclear.source))
    exact ⟨short, suffix⟩
  · rw [show finish _ _ _ _ = finished from rfl, asked] at put
    obtain ⟨-, why, answer, -⟩ := put
    exact ⟨why, answer⟩

end recording

end Turn

end SessionWatch
