/-
# Which lines are accepted

What becomes of a request line is decided by the first of a few rules that
applies: it has to be an object, to name a command, to give the fields of that
command, and the values of some fields have to be in order. The rules speak of
what the keys of the object stand for, so members under other keys and the
order of members do not matter.

Key definitions: `Command.Asked`, `Command.Ruling`, `Command.LineRuling`,
`Command.Agree`.
Key theorems: `Command.ruling_congr`, `Command.lineRuling_iff`,
`Command.accept_by_first_rule`.
-/
import SessionWatch.Proofs.Wire.CommandLine
import SessionWatch.Proofs.Wire.Stated

namespace SessionWatch.Command

open Text (utf8)

/-! ### The rules -/

/-- The names that a command can have. -/
def wireNames : List String :=
  ["register", "unregister", "state", "stop", "todos", "query", "heartbeat", "mute", "undo_mute",
    "clear_last_muted", "subscribe", "health"]

/-- The names of the commands that are about something with an id. -/
def idTakers : List String :=
  ["register", "unregister", "state", "stop", "todos", "heartbeat", "mute"]

/-- An object names a command and gives its fields. -/
structure Asked (get : String → Option Json) (c : Command) : Prop where
  named : get "cmd" = some (.string c.name)
  stated : c.Stated get

/-- What becomes of an object, given what its keys stand for. Each rule says that it applies and
that none before it does. -/
inductive Ruling (get : String → Option Json) : Except String Command → Prop where
  | commandMissing (missing : get "cmd" = none) : Ruling get (.error "missing_cmd")
  | commandNotText {v : Json} (cmd : get "cmd" = some v) (notText : ∀ s, v ≠ .string s) :
      Ruling get (.error "invalid_params")
  | commandUnknown {name : String} (cmd : get "cmd" = some (.string name))
      (unknown : name ∉ wireNames) : Ruling get (.error "unknown_command")
  | fieldsNotGiven {name : String} (cmd : get "cmd" = some (.string name))
      (known : name ∈ wireNames) (notGiven : ∀ c : Command, c.name = name → ¬ c.Stated get) :
      Ruling get (.error "invalid_params")
  | idBlank {c : Command} {id : String} (asked : Asked get c) (target : c.targetId = some id)
      (blank : Text.trim id = "") : Ruling get (.error "missing_field")
  | idTooLong {c : Command} {id : String} (asked : Asked get c) (target : c.targetId = some id)
      (filled : Text.trim id ≠ "") (long : 256 < id.utf8ByteSize) :
      Ruling get (.error "invalid_id")
  | directoryBlank {r : Registration} (asked : Asked get (.register r))
      (filled : Text.trim r.id ≠ "") (short : r.id.utf8ByteSize ≤ 256)
      (blank : Text.trim r.cwd = "") : Ruling get (.error "missing_field")
  | accepted {c : Command} (asked : Asked get c)
      (idInOrder : ∀ id, c.targetId = some id → Text.trim id ≠ "" ∧ id.utf8ByteSize ≤ 256)
      (directoryFilled : ∀ r, c = .register r → Text.trim r.cwd ≠ "") : Ruling get (.ok c)

/-- What becomes of a line: it has to be one JSON text, an object, and then the keys of the
object decide. -/
inductive LineRuling (line : Bytes) : Except String Command → Prop where
  | notJson (notJson : ∀ v, Json.parse line ≠ .ok v) : LineRuling line (.error "invalid_json")
  | notObject {v : Json} (read : Json.parse line = .ok v) (notObject : ∀ ms, v ≠ .object ms) :
      LineRuling line (.error "invalid_json")
  | object {ms : List (String × Json)} {outcome : Except String Command}
      (read : Json.parse line = .ok (.object ms)) (ruling : Ruling (Json.valueOf ms) outcome) :
      LineRuling line outcome

/-! ### Only some keys matter -/

/-- Two objects have the same under `cmd`, and under the names of the fields of the command that
this names. -/
structure Agree (get get' : String → Option Json) : Prop where
  command : get "cmd" = get' "cmd"
  fields : ∀ k : Kind, get "cmd" = some (.string k.name) → ∀ n ∈ k.fieldNames, get n = get' n

section agree

variable {get get' : String → Option Json} {c : Command}

theorem Agree.symm (h : Agree get get') : Agree get' get :=
  ⟨h.command.symm, fun k hk n hn => (h.fields k (h.command.trans hk) n hn).symm⟩

theorem Agree.stated (h : Agree get get') (cmd : get "cmd" = some (.string c.name)) :
    c.Stated get ↔ c.Stated get' :=
  stated_congr (h.fields c.kind cmd)

theorem Asked.congr (h : Agree get get') (asked : Asked get c) : Asked get' c :=
  ⟨h.command ▸ asked.named, (h.stated asked.named).mp asked.stated⟩

/-- Objects that agree share their outcome. -/
theorem ruling_congr (h : Agree get get') {outcome : Except String Command}
    (ruling : Ruling get outcome) : Ruling get' outcome := by
  cases ruling with
  | commandMissing missing => exact .commandMissing (h.command ▸ missing)
  | commandNotText cmd notText => exact .commandNotText (h.command ▸ cmd) notText
  | commandUnknown cmd unknown => exact .commandUnknown (h.command ▸ cmd) unknown
  | fieldsNotGiven cmd known notGiven =>
    refine .fieldsNotGiven (h.command ▸ cmd) known fun c hc stated => ?_
    subst hc
    exact notGiven c rfl ((h.stated cmd).mpr stated)
  | idBlank asked target blank => exact .idBlank (asked.congr h) target blank
  | idTooLong asked target filled long => exact .idTooLong (asked.congr h) target filled long
  | directoryBlank asked filled short blank =>
    exact .directoryBlank (asked.congr h) filled short blank
  | accepted asked idInOrder directoryFilled =>
    exact .accepted (asked.congr h) idInOrder directoryFilled

end agree

/-! ### What an object stands for -/

section object

variable {ms : List (String × Json)}

theorem find?_cmd (ms : List (String × Json)) :
    Json.find? "cmd" (Json.collect (ms.map fun m => (m.1, m.2.canonical))) =
      Json.valueOf ms "cmd" :=
  Json.find?_collect_canonical ms "cmd"

theorem ofJson_missing (cmd : Json.valueOf ms "cmd" = none) :
    ofJson (Json.object ms).canonical = .error .commandMissing := by
  rw [Json.canonical_object, ofJson]
  simp only [find?_cmd, cmd]

theorem ofJson_notText {v : Json} (cmd : Json.valueOf ms "cmd" = some v)
    (notText : ∀ s, v ≠ .string s) :
    ofJson (Json.object ms).canonical = .error .commandNotText := by
  rw [Json.canonical_object, ofJson]
  simp only [find?_cmd, cmd]

theorem mem_wireNames {name : String} : name ∈ wireNames ↔ ∃ k : Kind, k.name = name := by
  have names : wireNames = Kind.all.map Kind.name := rfl
  rw [names, List.mem_map]
  constructor
  · rintro ⟨k, -, hk⟩
    exact ⟨k, hk⟩
  · rintro ⟨k, hk⟩
    exact ⟨k, by cases k <;> decide, hk⟩

theorem ofJson_unknown {name : String} (cmd : Json.valueOf ms "cmd" = some (.string name))
    (unknown : name ∉ wireNames) :
    ofJson (Json.object ms).canonical = .error (.unknownCommand name) := by
  have unnamed : Kind.naming.find? name = none := by
    cases hk : Kind.naming.find? name with
    | none => rfl
    | some k =>
      have named : name = Kind.naming.name k := (find?_eq_some find?_name rfl name).mp hk
      exact absurd (mem_wireNames.mpr ⟨k, named.symm⟩) unknown
  rw [Json.canonical_object, ofJson]
  simp only [find?_cmd, cmd, unnamed]

/-- The fields of a command are looked for beside its name, which none of them has. -/
theorem stated_beside_cmd (c : Command) :
    ofFields c.kind (.object ((Json.collect (ms.map fun m => (m.1, m.2.canonical))).filter
      fun m => m.1 ≠ "cmd")) = .ok c ↔ c.Stated (Json.valueOf ms) := by
  have keys : (((Json.collect (ms.map fun m => (m.1, m.2.canonical))).filter
      fun m => m.1 ≠ "cmd").map Prod.fst).Nodup :=
    (Json.nodup_collect _).sublist (List.filter_sublist.map Prod.fst)
  refine (ofFields_kind_eq_ok keys c).trans (stated_congr fun n hn => ?_)
  have other : n ≠ "cmd" := by
    rintro rfl
    revert hn
    cases c.kind <;> decide
  rw [Json.find?_filter, Json.find?_collect_canonical]
  rintro m - rfl
  exact decide_eq_true other

theorem ofJson_asked {c : Command} (asked : Asked (Json.valueOf ms) c) :
    ofJson (Json.object ms).canonical = .ok c := by
  rw [Json.canonical_object, ofJson]
  simp only [find?_cmd, asked.named, name, find?_name, (stated_beside_cmd c).mpr asked.stated]
  rfl

theorem ofJson_notGiven {name : String} (cmd : Json.valueOf ms "cmd" = some (.string name))
    (known : name ∈ wireNames)
    (notGiven : ∀ c : Command, c.name = name → ¬ c.Stated (Json.valueOf ms)) :
    ∃ why, ofJson (Json.object ms).canonical = .error (.badFields name why) := by
  obtain ⟨k, rfl⟩ := mem_wireNames.mp known
  rw [Json.canonical_object, ofJson]
  simp only [find?_cmd, cmd, find?_name]
  cases made : ofFields k _ with
  | error why => exact ⟨why, rfl⟩
  | ok c =>
    have same := kind_of_ofFields made
    subst same
    exact absurd ((stated_beside_cmd c).mp made) (notGiven c rfl)

end object

/-! ### Values in order -/

theorem allBlank_iff {s : String} : Text.allBlank s = true ↔ Text.trim s = "" :=
  Text.trim_eq_empty_iff.symm

theorem checkId_of_blank {id : String} (blank : Text.trim id = "") :
    checkId id = .error .idMissing :=
  if_pos (allBlank_iff.mpr blank)

theorem checkId_of_long {id : String} (filled : Text.trim id ≠ "") (long : 256 < id.utf8ByteSize) :
    checkId id = .error .idTooLong :=
  (if_neg (mt allBlank_iff.mp filled)).trans (if_pos long)

theorem checkId_eq_ok {id : String} (filled : Text.trim id ≠ "") (short : id.utf8ByteSize ≤ 256) :
    checkId id = .ok () :=
  (if_neg (mt allBlank_iff.mp filled)).trans (if_neg (Nat.not_lt.mpr short))

/-- The id of a command is checked first. -/
theorem check_of_checkId {c : Command} {id : String} {p : Problem} (target : c.targetId = some id)
    (refused : checkId id = .error p) : c.check = .error p := by
  unfold check
  rw [target, Option.elim_some, refused]

theorem check_of_directoryBlank {r : Registration} (filled : Text.trim r.id ≠ "")
    (short : r.id.utf8ByteSize ≤ 256) (blank : Text.trim r.cwd = "") :
    (register r).check = .error .directoryMissing := by
  have passed : (register r).targetId.elim (.ok ()) checkId = .ok () := checkId_eq_ok filled short
  unfold check
  rw [passed]
  exact if_pos (allBlank_iff.mpr blank)

theorem check_eq_ok {c : Command}
    (idInOrder : ∀ id, c.targetId = some id → Text.trim id ≠ "" ∧ id.utf8ByteSize ≤ 256)
    (directoryFilled : ∀ r, c = register r → Text.trim r.cwd ≠ "") : c.check = .ok () := by
  have passed : c.targetId.elim (.ok ()) checkId = .ok () := by
    cases target : c.targetId with
    | none => rfl
    | some id => exact checkId_eq_ok (idInOrder id target).1 (idInOrder id target).2
  unfold check
  rw [passed]
  cases c with
  | register r => exact if_neg (mt allBlank_iff.mp (directoryFilled r rfl))
  | _ => rfl

/-! ### The outcome of a line -/

/-- The command that a line asks for, or the code of the problem that is reported. -/
def outcome (line : Bytes) : Except String Command := (accept line).mapError Problem.code

section outcome

variable {line : Bytes} {ms : List (String × Json)}

theorem accept_of_error {p : Problem} {v : Json} (read : Json.parse line = .ok v)
    (refused : ofJson v.canonical = .error p) : accept line = .error p := by
  rw [accept, read]
  simp only [refused]

theorem accept_of_asked {c : Command} (read : Json.parse line = .ok (.object ms))
    (asked : Asked (Json.valueOf ms) c) : accept line = c.check.map fun () => c := by
  rw [accept, read]
  simp only [ofJson_asked asked]

/-- The rule that applies gives the outcome. -/
theorem outcome_of_ruling (read : Json.parse line = .ok (.object ms))
    {o : Except String Command} (ruling : Ruling (Json.valueOf ms) o) : outcome line = o := by
  rw [outcome]
  cases ruling with
  | commandMissing missing =>
    rw [accept_of_error read (ofJson_missing missing)]
    rfl
  | commandNotText cmd notText =>
    rw [accept_of_error read (ofJson_notText cmd notText)]
    rfl
  | commandUnknown cmd unknown =>
    rw [accept_of_error read (ofJson_unknown cmd unknown)]
    rfl
  | fieldsNotGiven cmd known notGiven =>
    obtain ⟨why, refused⟩ := ofJson_notGiven cmd known notGiven
    rw [accept_of_error read refused]
    rfl
  | idBlank asked target blank =>
    rw [accept_of_asked read asked, check_of_checkId target (checkId_of_blank blank)]
    rfl
  | idTooLong asked target filled long =>
    rw [accept_of_asked read asked, check_of_checkId target (checkId_of_long filled long)]
    rfl
  | directoryBlank asked filled short blank =>
    rw [accept_of_asked read asked, check_of_directoryBlank filled short blank]
    rfl
  | accepted asked idInOrder directoryFilled =>
    rw [accept_of_asked read asked, check_eq_ok idInOrder directoryFilled]
    rfl

/-- Some rule applies once a command is asked for. -/
theorem exists_ruling_of_asked {get : String → Option Json} {c : Command} (asked : Asked get c) :
    ∃ o, Ruling get o := by
  by_cases idInOrder : ∀ id, c.targetId = some id → Text.trim id ≠ "" ∧ id.utf8ByteSize ≤ 256
  · by_cases directoryFilled : ∀ r, c = register r → Text.trim r.cwd ≠ ""
    · exact ⟨_, .accepted asked idInOrder directoryFilled⟩
    · push Not at directoryFilled
      obtain ⟨r, rfl, blank⟩ := directoryFilled
      have target := idInOrder r.id rfl
      exact ⟨_, .directoryBlank asked target.1 target.2 blank⟩
  · push Not at idInOrder
    obtain ⟨id, target, bad⟩ := idInOrder
    by_cases blank : Text.trim id = ""
    · exact ⟨_, .idBlank asked target blank⟩
    · exact ⟨_, .idTooLong asked target blank (bad blank)⟩

/-- Some rule applies to every object. -/
theorem exists_ruling (get : String → Option Json) : ∃ o, Ruling get o := by
  cases cmd : get "cmd" with
  | none => exact ⟨_, .commandMissing cmd⟩
  | some v =>
    by_cases text : ∃ name, v = .string name
    · obtain ⟨name, rfl⟩ := text
      by_cases known : name ∈ wireNames
      · by_cases given : ∃ c : Command, c.name = name ∧ c.Stated get
        · obtain ⟨c, rfl, stated⟩ := given
          exact exists_ruling_of_asked ⟨cmd, stated⟩
        · push Not at given
          exact ⟨_, .fieldsNotGiven cmd known given⟩
      · exact ⟨_, .commandUnknown cmd known⟩
    · push Not at text
      exact ⟨_, .commandNotText cmd text⟩

/-- **The first rule that applies decides about a line, and one does.** -/
theorem lineRuling_iff {o : Except String Command} : LineRuling line o ↔ outcome line = o := by
  have sound : ∀ o, LineRuling line o → outcome line = o := by
    intro o ruling
    cases ruling with
    | notJson notJson =>
      rw [outcome, accept]
      cases read : Json.parse line with
      | error why => rfl
      | ok v => exact absurd read (notJson v)
    | notObject read notObject =>
      have refused (v : Json) (h : ∀ ms, v ≠ .object ms) :
          ofJson v.canonical = .error .notObject := by
        cases v with
        | object ms => exact absurd rfl (h ms)
        | array vs =>
          rw [Json.canonical_array]
          rfl
        | _ => rfl
      rw [outcome, accept_of_error read (refused _ notObject)]
      rfl
    | object read ruling => exact outcome_of_ruling read ruling
  refine ⟨sound o, ?_⟩
  rintro rfl
  have total : ∃ o, LineRuling line o := by
    cases read : Json.parse line with
    | error why => exact ⟨_, .notJson (by simp [read])⟩
    | ok v =>
      by_cases object : ∃ ms, v = .object ms
      · obtain ⟨ms, rfl⟩ := object
        obtain ⟨o, ruling⟩ := exists_ruling (Json.valueOf ms)
        exact ⟨o, .object read ruling⟩
      · push Not at object
        exact ⟨_, .notObject read object⟩
  obtain ⟨o, ruling⟩ := total
  exact sound o ruling ▸ ruling

theorem outcome_congr {line' : Bytes} {ms' : List (String × Json)}
    (read : Json.parse line = .ok (.object ms)) (read' : Json.parse line' = .ok (.object ms'))
    (h : Agree (Json.valueOf ms) (Json.valueOf ms')) : outcome line = outcome line' := by
  obtain ⟨o, ruling⟩ := exists_ruling (Json.valueOf ms)
  rw [outcome_of_ruling read ruling, outcome_of_ruling read' (ruling_congr h ruling)]

theorem asked_of_accept {c : Command} (h : accept line = .ok c) :
    ∃ ms, Json.parse line = .ok (.object ms) ∧ Asked (Json.valueOf ms) c := by
  have ruling : LineRuling line (.ok c) := by
    rw [lineRuling_iff, outcome, h]
    rfl
  cases ruling with
  | object read ruling =>
    cases ruling with
    | accepted asked _ _ => exact ⟨_, read, asked⟩

end outcome

/-! ### What is accepted -/

theorem mem_idTakers (c : Command) : c.name ∈ idTakers ↔ c.targetId ≠ none := by
  cases c <;> simp [name, kind, Kind.name, idTakers, targetId]

theorem Stated.get_id {get : String → Option Json} {c : Command} {id : String}
    (stated : c.Stated get) (target : c.targetId = some id) : get "id" = some (.string id) := by
  cases c with
  | register r | state _ _ | stop t | todos _ _ | mute _ _ =>
    cases target
    exact gives_required.mp stated.1
  | unregister _ | heartbeat _ =>
    cases target
    exact gives_required.mp stated
  | query _ | undoMute | clearLastMuted | subscribe | health => cases target

/-- The id that a command is about is the text under `id`. -/
theorem targetId_eq_some {get : String → Option Json} {c : Command} (asked : Asked get c)
    (id : String) :
    c.targetId = some id ↔ c.name ∈ idTakers ∧ get "id" = some (.string id) := by
  rw [mem_idTakers]
  cases target : c.targetId with
  | none => simp
  | some own => simp [asked.stated.get_id target]

/-- Objects that have the same members under the keys that matter agree, if these keys are not
repeated. -/
theorem agree_of_perm {ms ms' : List (String × Json)} {keys : List String} (cmd : "cmd" ∈ keys)
    (fields : ∀ k : Kind, Json.valueOf ms "cmd" = some (.string k.name) →
      ∀ n ∈ k.fieldNames, n ∈ keys)
    (distinct : ((ms.filter fun m => m.1 ∈ keys).map Prod.fst).Nodup)
    (same : (ms.filter fun m => m.1 ∈ keys).Perm (ms'.filter fun m => m.1 ∈ keys)) :
    Agree (Json.valueOf ms) (Json.valueOf ms') := by
  have at_key {n : String} (hn : n ∈ keys) : Json.valueOf ms n = Json.valueOf ms' n := by
    have kept : ∀ ms : List (String × Json),
        Json.valueOf (ms.filter fun m => m.1 ∈ keys) n = Json.valueOf ms n := by
      intro ms
      refine Json.valueOf_filter ?_
      rintro m - rfl
      exact decide_eq_true hn
    rw [← kept ms, ← kept ms', Json.valueOf_perm same distinct]
  exact ⟨at_key cmd, fun k hk n hn => at_key (fields k hk n hn)⟩

/-- **A line is accepted or refused by the first rule that applies.** A command that is accepted
has the name that the line gives, and it is about an id just if it is one of those that take one,
and then about the id that the line gives. The outcome depends only on what `cmd` and the names
of the fields of the command stand for; so neither other members matter, nor the order of
members with distinct keys. -/
theorem accept_by_first_rule :
    (∀ line o, outcome line = o ↔ LineRuling line o) ∧
    (∀ line c, accept line = .ok c → ∃ ms, Json.parse line = .ok (.object ms) ∧
      Json.valueOf ms "cmd" = some (.string c.name) ∧
      ∀ id, c.targetId = some id ↔
        c.name ∈ idTakers ∧ Json.valueOf ms "id" = some (.string id)) ∧
    ∀ line line' ms ms', Json.parse line = .ok (.object ms) →
      Json.parse line' = .ok (.object ms') →
      (Agree (Json.valueOf ms) (Json.valueOf ms') → outcome line = outcome line') ∧
      ∀ keys : List String, "cmd" ∈ keys →
        (∀ k : Kind, Json.valueOf ms "cmd" = some (.string k.name) →
          ∀ n ∈ k.fieldNames, n ∈ keys) →
        ((ms.filter fun m => m.1 ∈ keys).map Prod.fst).Nodup →
        (ms.filter fun m => m.1 ∈ keys).Perm (ms'.filter fun m => m.1 ∈ keys) →
        outcome line = outcome line' := by
  refine ⟨fun line o => lineRuling_iff.symm, fun line c h => ?_, fun line line' ms ms' read read' =>
    ⟨outcome_congr read read', fun keys cmd fields distinct same => ?_⟩⟩
  · obtain ⟨ms, read, asked⟩ := asked_of_accept h
    exact ⟨ms, read, asked.named, targetId_eq_some asked⟩
  · exact outcome_congr read read' (agree_of_perm cmd fields distinct same)

/-- A mute with a member more and the same mute in another order without it; and an array. -/
theorem accept_by_first_rule_mute :
    let c : Command := .mute "42" .pr
    let given : List (String × Json) := [("more", .null), ("kind", .string "pr"),
      ("cmd", .string "mute"), ("id", .string "42")]
    let moved : List (String × Json) := [("cmd", .string "mute"), ("id", .string "42"),
      ("kind", .string "pr")]
    accept (utf8 (Json.object given).compact) = .ok c ∧
    (∀ id, c.targetId = some id ↔
      c.name ∈ idTakers ∧ Json.valueOf given "id" = some (.string id)) ∧
    outcome (utf8 (Json.object given).compact) = outcome (utf8 (Json.object moved).compact) ∧
    outcome (utf8 (Json.object moved).compact) = .ok c ∧
    outcome (utf8 (Json.array []).compact) = .error "invalid_json" := by
  intro c given moved
  obtain ⟨rules, target, same⟩ := accept_by_first_rule
  have read : Json.parse (utf8 (Json.object given).compact) = .ok (.object given) := by
    have plain : (Json.object given).Plain Json.depthLimit := .object <| by
      simp only [given, List.forall_mem_cons]
      exact ⟨.null, .string _, .string _, .string _, List.forall_mem_nil _⟩
    exact plain.parse_compact
  have read_moved : Json.parse (utf8 (Json.object moved).compact) = .ok (.object moved) := by
    have plain : (Json.object moved).Plain Json.depthLimit := .object <| by
      simp only [moved, List.forall_mem_cons]
      exact ⟨.string _, .string _, .string _, List.forall_mem_nil _⟩
    exact plain.parse_compact
  have accepted : accept (utf8 (Json.object given).compact) = .ok c := by
    rw [accept, read]
    rfl
  have cmd : "cmd" ∈ ["cmd", "id", "kind"] := List.mem_cons_self
  have fields : ∀ k : Kind, Json.valueOf given "cmd" = some (.string k.name) →
      ∀ n ∈ k.fieldNames, n ∈ ["cmd", "id", "kind"] := by
    intro k hk
    have named : "mute" = k.name := Json.string.inj (Option.some.inj hk)
    cases k <;> first | decide | exact absurd named (by decide)
  have distinct : ((given.filter fun m => m.1 ∈ ["cmd", "id", "kind"]).map Prod.fst).Nodup := by
    have keys : (given.filter fun m => m.1 ∈ ["cmd", "id", "kind"]).map Prod.fst =
        ["kind", "cmd", "id"] := rfl
    rw [keys]
    decide
  have perm : (given.filter fun m => m.1 ∈ ["cmd", "id", "kind"]).Perm
      (moved.filter fun m => m.1 ∈ ["cmd", "id", "kind"]) := by
    change ([("kind", Json.string "pr")] ++
      [("cmd", Json.string "mute"), ("id", Json.string "42")]).Perm
        ([("cmd", Json.string "mute"), ("id", Json.string "42")] ++ [("kind", Json.string "pr")])
    exact List.perm_append_comm
  have moves : outcome (utf8 (Json.object given).compact) =
      outcome (utf8 (Json.object moved).compact) :=
    (same _ _ given moved read read_moved).2 _ cmd fields distinct perm
  have agree := agree_of_perm cmd fields distinct perm
  refine ⟨accepted, ?_, (same _ _ given moved read read_moved).1 agree, ?_, ?_⟩
  · obtain ⟨ms, read', -, ids⟩ := target _ _ accepted
    rw [read] at read'
    cases read'
    exact ids
  · rw [← moves, outcome, accepted]
    rfl
  · rw [rules]
    exact .notObject (Json.Plain.parse_compact (.array (List.forall_mem_nil _))) (by rintro _ ⟨⟩)

end SessionWatch.Command
