/-
# What an object says in the fields of a command

Which command an object stands for does not depend on how it is read. It gives
a field by the one value under a name of the field, or by having no such value
if the field may be left out; an object with values under two names of a field
gives nothing. The fields of a command are decoded to what is given, and
nothing else in the object matters.

Key definitions: `Gives`, `Named`, `Command.Stated`, `Command.Kind.fieldNames`.
Key theorems: `Command.ofFields_kind_eq_ok`, `Command.stated_congr`.
-/
import SessionWatch.Proofs.Schema.Members
import SessionWatch.Wire.Command

namespace SessionWatch

/-! ### Fields that are given -/

/-- What a field is given as under its names: by one value, or by having none. -/
def Gives (get : String → Option Json) (names : List String) (value : Json → Prop)
    (absent : Prop) : Prop :=
  match names.filterMap get with
  | [] => absent
  | [v] => value v
  | _ :: _ :: _ => False

/-- A name that will do, alone or as the one key of an object that has nothing under it. -/
inductive Named (good : String → Prop) : Json → Prop where
  | alone {name : String} (h : good name) : Named good (.string name)
  | key {name : String} {v : Json} (h : good name) (nothing : v = .null ∨ v = .object []) :
      Named good (.object [(name, v)])

/-- The names of an agent: its own one, or for other agents all that no agent has. -/
def Agent.IsCalled (a : Agent) (name : String) : Prop :=
  name = a.name ∨ a = .other ∧ name ∉ ["claude", "codex", "other"]

/-- The limit of a query: none if there is no text or a blank one, else the state that the text
names between its blanks. -/
def State.Limits (filter : Option State) (v : Json) : Prop :=
  v = .null ∧ filter = none ∨
    ∃ text, v = .string text ∧
      (Text.trim text = "" ∧ filter = none ∨ ∃ s, filter = some s ∧ Text.trim text = s.name)

section gives

variable {get get' : String → Option Json} {names : List String} {value : Json → Prop}
  {absent : Prop}

theorem gives_congr (h : ∀ n ∈ names, get n = get' n) :
    Gives get names value absent ↔ Gives get' names value absent := by
  rw [Gives, Gives, List.filterMap_congr h]

/-- A field with one name that may not be left out is what is found under that name. -/
theorem gives_required {n : String} {v : Json} :
    Gives get [n] (· = v) False ↔ get n = some v := by
  rw [Gives]
  cases found : get n with
  | none => simp [found]
  | some w => simp [found]

/-- A field is read as what it is given as. -/
theorem Shape.field?_eq_some {α : Type} {source : Source} {s : Shape α} {absence : Absence α}
    {a : α} (here : ∀ v, s.ofJson source v = .ok a ↔ value v)
    (gone : absence.value? = some a ↔ absent) :
    s.field? source absence (names.filterMap get) = some a ↔ Gives get names value absent := by
  rw [Gives]
  rcases names.filterMap get with - | ⟨v, - | ⟨w, vs⟩⟩
  · exact gone
  · rw [field?, toOption_eq_some, here]
  · exact iff_of_false (by rintro ⟨⟩) id

end gives

/-! ### Values -/

namespace Command

section values

variable {source : Source}

theorem text_eq_ok {s : String} (v : Json) :
    textShape.ofJson source v = .ok s ↔ v = .string s := by
  cases v with
  | string t => simp [textShape, Shape.ofJson]
  | _ => simp [textShape, Shape.ofJson, wrongType]

theorem optional_text_eq_ok {o : Option String} (v : Json) :
    (Shape.optional textShape).ofJson source v = .ok o ↔ v = o.elim .null .string := by
  cases v with
  | string t => cases o <;> simp [textShape, Shape.ofJson]
  | _ => cases o <;> simp [textShape, Shape.ofJson, wrongType]

theorem readEach_eq_ok {α β : Type} {f : α → Except Json.Mismatch β} {back : β → α}
    (h : ∀ a b, f a = .ok b ↔ a = back b) : ∀ (as : List α) (acc bs : List β),
      readEach f acc as = .ok bs ↔ ∃ later, bs = acc.reverse ++ later ∧ as = later.map back
  | [], acc, bs => by
    rw [readEach]
    constructor
    · rintro ⟨⟩
      exact ⟨[], (List.append_nil _).symm, rfl⟩
    · rintro ⟨later, rfl, none_left⟩
      rw [List.map_eq_nil_iff.mp none_left.symm, List.append_nil]
  | a :: as, acc, bs => by
    rw [readEach]
    cases ha : f a with
    | error m =>
      constructor
      · rintro ⟨⟩
      · rintro ⟨later, -, hlater⟩
        obtain ⟨b, later, rfl, rfl, -⟩ := List.map_eq_cons_iff.mp hlater.symm
        rw [(h _ b).mpr rfl] at ha
        cases ha
    | ok b =>
      have hback : a = back b := (h a b).mp ha
      simp only [readEach_eq_ok h as (b :: acc) bs]
      constructor
      · rintro ⟨later, rfl, rfl⟩
        exact ⟨b :: later, by simp, by simp [hback]⟩
      · rintro ⟨later, rfl, hlater⟩
        obtain ⟨b', later, rfl, hb', rfl⟩ := List.map_eq_cons_iff.mp hlater.symm
        have same : b' = b := by
          have := (h (back b') b').mpr rfl
          rw [hb', ha] at this
          exact (Except.ok.inj this).symm
        exact ⟨later, by simp [same], rfl⟩

theorem texts_eq_ok {ts : List String} (v : Json) :
    (Shape.list textShape).ofJson source v = .ok ts ↔ v = .array (ts.map .string) := by
  cases v with
  | array vs =>
    have each (v : Json) (t : String) : textShape.ofJson source v = .ok t ↔ v = Json.string t :=
      text_eq_ok v
    rw [Shape.ofJson, readEach_eq_ok each]
    simp
  | _ => simp [Shape.ofJson, wrongType]

/-- A name is read as the value that it names, alone or as a key. -/
theorem oneOf_eq_ok {α : Type} {naming : Naming α} {a : α} {good : String → Prop}
    (h : ∀ name, naming.find? name = some a ↔ good name) (v : Json) :
    (Shape.oneOf naming).ofJson .buffered v = .ok a ↔ Named good v := by
  have read (name : String) : naming.read name = .ok a ↔ good name := by
    rw [← h, Naming.read]
    cases naming.find? name <;> simp
  rw [Shape.ofJson]
  cases v with
  | string name =>
    rw [Naming.ofJson, read]
    exact ⟨.alone, fun | .alone h => h⟩
  | object ms =>
    match ms with
    | [] | _ :: _ :: _ => exact ⟨nofun, nofun⟩
    | [(name, payload)] =>
      rw [Naming.ofJson]
      constructor
      · cases hname : naming.read name with
        | error m => nofun
        | ok b =>
          simp only
          split
          · rintro ⟨⟩
            exact .key ((read name).mp hname) (.inl rfl)
          · rintro ⟨⟩
            exact .key ((read name).mp hname) (.inr rfl)
          · nofun
      · rintro (_ | ⟨hgood, rfl | rfl⟩)
        · rw [(read name).mpr hgood]
        · rw [(read name).mpr hgood]
  | _ => exact ⟨nofun, nofun⟩

end values

/-! ### Names -/

/-- A name stands for the value that has it, if no value has all the names that are left. -/
theorem find?_eq_some {α : Type} {naming : Naming α}
    (h : ∀ a, naming.find? (naming.name a) = some a)
    (closed : naming.other = none) {a : α} (name : String) :
    naming.find? name = some a ↔ name = naming.name a := by
  constructor
  · intro found
    rw [Naming.find?, closed] at found
    have hfound : naming.all.find? (fun a => naming.name a = name) = some a := by
      simpa using found
    have same := List.find?_some hfound
    exact (of_decide_eq_true same).symm
  · rintro rfl
    exact h a

theorem find?_state {s : State} (name : String) :
    State.naming.find? name = some s ↔ name = s.name :=
  find?_eq_some (fun s => by cases s <;> rfl) rfl name

theorem find?_muteKind {k : MuteKind} (name : String) :
    MuteKind.naming.find? name = some k ↔ name = k.name :=
  find?_eq_some (fun k => by cases k <;> rfl) rfl name

theorem find?_agent {a : Agent} (name : String) :
    Agent.naming.find? name = some a ↔ a.IsCalled name := by
  by_cases known : name ∈ ["claude", "codex", "other"]
  · simp only [List.mem_cons, List.not_mem_nil, or_false] at known
    rcases known with rfl | rfl | rfl <;> cases a <;>
      simp [Naming.find?, Agent.naming, Agent.all, Agent.name, Agent.IsCalled]
  · have found : Agent.naming.find? name = some .other := by
      simp only [List.mem_cons, List.not_mem_nil, or_false, not_or] at known
      simp [Naming.find?, Agent.naming, Agent.all, Agent.name, Ne.symm known.1,
        Ne.symm known.2.1, Ne.symm known.2.2]
    have other (b : Agent) : name ≠ b.name := by
      rintro rfl
      cases b <;> simp [Agent.name] at known
    simp [found, Agent.IsCalled, known, other, eq_comm]

/-! ### Limits of a query -/

theorem refine_eq_ok {α β : Type} {source : Source} {s : Shape α} {check : α → Except String β}
    {back : β → α} {b : β} (v : Json) :
    (Shape.refine s check back).ofJson source v = .ok b ↔
      ∃ a, s.ofJson source v = .ok a ∧ check a = .ok b := by
  rw [Shape.ofJson]
  cases s.ofJson source v with
  | error m => simp
  | ok a => cases hcheck : check a <;> simp [hcheck, Except.mapError]

theorem parse_eq_ok {s : State} (name : String) : State.parse name = .ok s ↔ name = s.name := by
  rw [← find?_state, State.parse]
  cases State.naming.find? name <;> simp

theorem checkFilter_some_eq_ok {filter : Option State} (text : String) :
    checkFilter (some text) = .ok filter ↔
      Text.trim text = "" ∧ filter = none ∨ ∃ s, filter = some s ∧ Text.trim text = s.name := by
  rw [checkFilter]
  by_cases blank : Text.trim text = ""
  · have unnamed (s : State) : "" ≠ s.name := by cases s <;> decide
    simp [blank, unnamed, eq_comm]
  · simp only [blank, false_and, false_or, ← parse_eq_ok]
    cases State.parse (Text.trim text) with
    | error m => simp [Except.map]
    | ok s => simp [Except.map, eq_comm]

theorem filter_eq_ok {source : Source} {filter : Option State} (v : Json) :
    (Shape.refine (.optional textShape) checkFilter (Option.map State.name)).ofJson source v =
      .ok filter ↔ State.Limits filter v := by
  simp only [refine_eq_ok, optional_text_eq_ok, State.Limits, ← checkFilter_some_eq_ok]
  constructor
  · rintro ⟨_ | text, rfl, passed⟩
    · exact .inl ⟨rfl, (Except.ok.inj passed).symm⟩
    · exact .inr ⟨text, rfl, passed⟩
  · rintro (⟨rfl, rfl⟩ | ⟨text, rfl, passed⟩)
    · exact ⟨none, rfl, rfl⟩
    · exact ⟨some text, rfl, passed⟩

/-! ### Records -/

section records

variable {α β γ σ : Type} {source : Source} {ms : List (String × Json)} {name : String}
  {aliases : List String} {s : Shape α} {absence : Absence α} {hidden : α → Bool}
  {rest : Fields β σ} {value : Json → Prop} {absent others : Prop} {a : α} {b : β}

theorem byName?_cons_eq_some (here : ∀ v, s.ofJson source v = .ok a ↔ value v)
    (gone : absence.value? = some a ↔ absent)
    (later : rest.byName? source (foundUnder ms) = some b ↔ others) :
    (Fields.cons name aliases s absence hidden rest).byName? source (foundUnder ms) = some (a, b) ↔
      Gives (Json.find? · ms) (name :: aliases) value absent ∧ others := by
  rw [Fields.byName?, both_eq_some, later, foundUnder, Shape.field?_eq_some here gone]

theorem byName?_last_eq_some (here : ∀ v, s.ofJson source v = .ok a ↔ value v)
    (gone : absence.value? = some a ↔ absent) :
    (Fields.cons name aliases s absence hidden .nil).byName? source (foundUnder ms) =
      some (a, ()) ↔ Gives (Json.find? · ms) (name :: aliases) value absent := by
  have last : Fields.nil.byName? source (foundUnder ms) = some () ↔ True :=
    iff_true_intro rfl
  rw [byName?_cons_eq_some here gone last, and_true]

theorem required_eq_some : (Absence.required : Absence α).value? = some a ↔ False :=
  ⟨nofun, False.elim⟩

theorem defaulted_eq_some {v : α} : (Absence.defaulted v).value? = some a ↔ a = v := by
  rw [Absence.value?, Option.some.injEq, eq_comm]

/-- A record is read off an object without repeated keys as what the fields are given as. -/
theorem record_eq_ok {title : String} {fs : Fields α σ} {into : α → β} {back : β → α} {b : β}
    (distinct : fs.names.Nodup) (there : ∀ a, back (into a) = a) (same : into (back b) = b)
    (keys : (ms.map Prod.fst).Nodup) :
    ((Shape.record title fs).via into back).ofJson source (.object ms) = .ok b ↔
      fs.byName? source (foundUnder ms) = some (back b) := by
  have one (a : α) : into a = b ↔ a = back b := by
    constructor
    · rintro rfl
      exact (there a).symm
    · rintro rfl
      exact same
  have filled : ((Shape.record title fs).ofJson source (.object ms)).toOption =
      fs.byName? source (foundUnder ms) :=
    Shape.ofJson_record_find? distinct source keys
  rw [Shape.via, refine_eq_ok, ← filled, toOption_eq_some]
  simp only [Except.ok.injEq, one, exists_eq_right]

theorem map_eq_ok {ε : Type} {e : Except ε α} {f : α → γ} (injective : ∀ a b, f a = f b → a = b) :
    e.map f = .ok (f a) ↔ e = .ok a := by
  cases e with
  | error m => exact ⟨nofun, nofun⟩
  | ok b =>
    constructor
    · exact fun h => congrArg Except.ok (injective b a (Except.ok.inj h))
    · rintro ⟨⟩
      rfl

end records

/-! ### Commands -/

/-- The names of the fields of a kind of command. -/
def Kind.fieldNames : Kind → List String
  | register => ["id", "label", "cwd", "dir", "agent", "agent_type"]
  | unregister | heartbeat => ["id"]
  | state => ["id", "state"]
  | stop => ["id", "transcript_path", "message"]
  | todos => ["id", "todos"]
  | query => ["state", "filter"]
  | mute => ["id", "kind"]
  | undoMute | clearLastMuted | subscribe | health => []

/-- What an object has to give for a command: all its fields as they are. -/
def Stated (get : String → Option Json) : Command → Prop
  | register r =>
    Gives get ["id"] (· = .string r.id) False ∧
    Gives get ["label"] (· = .string r.label) (r.label = "") ∧
    Gives get ["cwd", "dir"] (· = .string r.cwd) False ∧
    Gives get ["agent", "agent_type"] (Named r.agent.IsCalled) (r.agent = .claude)
  | unregister id | heartbeat id => Gives get ["id"] (· = .string id) False
  | state id s =>
    Gives get ["id"] (· = .string id) False ∧ Gives get ["state"] (Named (· = s.name)) False
  | stop t =>
    Gives get ["id"] (· = .string t.id) False ∧
    Gives get ["transcript_path"] (· = t.transcriptPath.elim .null .string)
      (t.transcriptPath = none) ∧
    Gives get ["message"] (· = t.message.elim .null .string) (t.message = none)
  | todos id ts =>
    Gives get ["id"] (· = .string id) False ∧
    Gives get ["todos"] (· = .array (ts.map .string)) False
  | query filter => Gives get ["state", "filter"] (State.Limits filter) (filter = none)
  | mute id kind =>
    Gives get ["id"] (· = .string id) False ∧
    Gives get ["kind"] (Named (· = kind.name)) (kind = .session)
  | undoMute | clearLastMuted | subscribe | health => True

/-- Only what is under the names of its fields matters to a command. -/
theorem stated_congr {get get' : String → Option Json} {c : Command}
    (h : ∀ n ∈ c.kind.fieldNames, get n = get' n) : c.Stated get ↔ c.Stated get' := by
  have same {names : List String} (own : ∀ n ∈ names, n ∈ c.kind.fieldNames) {value : Json → Prop}
      {absent : Prop} : Gives get names value absent ↔ Gives get' names value absent :=
    gives_congr fun n hn => h n (own n hn)
  cases c with
  | register r =>
    refine and_congr (same ?_) (and_congr (same ?_) (and_congr (same ?_) (same ?_))) <;>
      simp [kind, Kind.fieldNames]
  | unregister id | heartbeat id | query filter => exact same (by simp [kind, Kind.fieldNames])
  | state id s | todos id ts | mute id k =>
    refine and_congr (same ?_) (same ?_) <;> simp [kind, Kind.fieldNames]
  | stop t =>
    refine and_congr (same ?_) (and_congr (same ?_) (same ?_)) <;> simp [kind, Kind.fieldNames]
  | undoMute | clearLastMuted | subscribe | health => exact .rfl

/-- **The fields of a command are decoded to what the object gives.** -/
theorem ofFields_kind_eq_ok {ms : List (String × Json)} (keys : (ms.map Prod.fst).Nodup)
    (c : Command) : ofFields c.kind (.object ms) = .ok c ↔ c.Stated (Json.find? · ms) := by
  cases c with
  | register r =>
    exact (map_eq_ok fun _ _ => register.inj).trans <|
      (record_eq_ok (by decide) (fun _ => rfl) rfl keys).trans <|
      byName?_cons_eq_some text_eq_ok required_eq_some <|
      byName?_cons_eq_some text_eq_ok defaulted_eq_some <|
      byName?_cons_eq_some text_eq_ok required_eq_some <|
      byName?_last_eq_some (oneOf_eq_ok find?_agent) defaulted_eq_some
  | unregister id =>
    exact (map_eq_ok fun _ _ => unregister.inj).trans <|
      (record_eq_ok (by decide) (fun _ => rfl) rfl keys).trans <|
      byName?_last_eq_some text_eq_ok required_eq_some
  | state id s =>
    exact (map_eq_ok (a := (id, s)) fun _ _ h => Prod.ext_iff.mpr (state.inj h)).trans <|
      (record_eq_ok (by decide) (fun _ => rfl) rfl keys).trans <|
      byName?_cons_eq_some text_eq_ok required_eq_some <|
      byName?_last_eq_some (oneOf_eq_ok find?_state) required_eq_some
  | stop t =>
    exact (map_eq_ok fun _ _ => stop.inj).trans <|
      (record_eq_ok (by decide) (fun _ => rfl) rfl keys).trans <|
      byName?_cons_eq_some text_eq_ok required_eq_some <|
      byName?_cons_eq_some optional_text_eq_ok defaulted_eq_some <|
      byName?_last_eq_some optional_text_eq_ok defaulted_eq_some
  | todos id ts =>
    exact (map_eq_ok (a := (id, ts)) fun _ _ h => Prod.ext_iff.mpr (todos.inj h)).trans <|
      (record_eq_ok (by decide) (fun _ => rfl) rfl keys).trans <|
      byName?_cons_eq_some text_eq_ok required_eq_some <|
      byName?_last_eq_some texts_eq_ok required_eq_some
  | query filter =>
    exact (map_eq_ok fun _ _ => query.inj).trans <|
      (record_eq_ok (by decide) (fun _ => rfl) rfl keys).trans <|
      byName?_last_eq_some filter_eq_ok defaulted_eq_some
  | heartbeat id =>
    exact (map_eq_ok fun _ _ => heartbeat.inj).trans <|
      (record_eq_ok (by decide) (fun _ => rfl) rfl keys).trans <|
      byName?_last_eq_some text_eq_ok required_eq_some
  | mute id k =>
    exact (map_eq_ok (a := (id, k)) fun _ _ h => Prod.ext_iff.mpr (mute.inj h)).trans <|
      (record_eq_ok (by decide) (fun _ => rfl) rfl keys).trans <|
      byName?_cons_eq_some text_eq_ok required_eq_some <|
      byName?_last_eq_some (oneOf_eq_ok find?_muteKind) defaulted_eq_some
  | undoMute | clearLastMuted | subscribe | health => exact ⟨fun _ => trivial, fun _ => rfl⟩

/-- What is decoded for a kind is a command of that kind. -/
theorem kind_of_ofFields {k : Kind} {v : Json} {c : Command} (h : ofFields k v = .ok c) :
    c.kind = k := by
  have made {α : Type} {e : Except Json.Mismatch α} {f : α → Command} (hf : ∀ a, (f a).kind = k)
      (he : e.map f = .ok c) : c.kind = k := by
    cases e with
    | error m => cases he
    | ok a =>
      rw [← Except.ok.inj he]
      exact hf a
  cases k with
  | undoMute | clearLastMuted | subscribe | health =>
    cases h
    rfl
  | register | unregister | state | stop | todos | query | heartbeat | mute =>
    exact made (fun _ => rfl) h

end Command

end SessionWatch
