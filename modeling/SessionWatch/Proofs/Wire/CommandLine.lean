/-
# Request lines of commands

The line of a command whose values are in order is one line, and the daemon
takes it for that command, whatever characters its texts hold. So a command
that was accepted once is accepted again from the line that is written for
it, although it may have come with other names of its fields, in another
order, or with more members.

Key definitions: `Shape.ReadsBackBeside`.
Key theorems: `Command.ofFields_fields`, `Command.accept_line`,
`Command.line_carried_and_accepted`.
-/
import SessionWatch.Proofs.Connection.Framing
import SessionWatch.Proofs.Json.ReadBack
import SessionWatch.Proofs.Schema.ReadBack
import SessionWatch.Wire.Command

namespace SessionWatch

open Text (utf8)

/-! ### Members beside a tag -/

/-- What stands for a value is an object without the key `tag`, and the value is read back from
the members of it, in whatever order they come. -/
structure Shape.ReadsBackBeside {α : Type} (tag : String) (s : Shape α) (v : α) : Prop where
  fresh : (tag :: (s.toJson v).members.map Prod.fst).Nodup
  read : ∀ source ms, ms.Perm ((s.toJson v).members.map fun m => (m.1, m.2.canonical)) →
    s.ofJson source (.object ms) = .ok v

/-- A record reads back beside a tag that is no name of a field. -/
theorem Shape.readsBackBeside_record {α β σ : Type} {tag title : String} {fs : Fields α σ}
    {into : α → β} {back : β → α} {v : β} (fresh : (tag :: fs.names).Nodup)
    (fits : fs.Fits (back v)) (hv : into (back v) = v) :
    ((Shape.record title fs).via into back).ReadsBackBeside tag v := by
  obtain ⟨htag, distinct⟩ := List.nodup_cons.mp fresh
  refine ⟨List.nodup_cons.mpr ⟨fun h => ?_, fs.nodup_toMembers (back v) distinct⟩,
    fun source ms h => ?_⟩
  · obtain ⟨m, hm, hname⟩ := List.mem_map.mp h
    exact htag (hname ▸ fs.name_of_mem_toMembers (back v) hm)
  · rw [Shape.via, Shape.ofJson, Shape.ofJson_record distinct fits .sorted h source]
    simp only [hv]
    rfl

namespace Command

/-! ### The values of fields -/

theorem readsBack_textShape (s : String) : textShape.ReadsBack s := Shape.readsBack_text _ _

/-- A filter is written as the name of its state. -/
theorem readsBack_filter (s : State) : Shape.ReadsBack
    (Shape.refine (.optional textShape) checkFilter (Option.map State.name)) (some s) := by
  refine Shape.ReadsBack.refine ((readsBack_textShape _).some nofun) ?_
  cases s <;> rfl

theorem readsBack_agent (a : Agent) : (Shape.oneOf Agent.naming).ReadsBack a :=
  Shape.readsBack_oneOf (by cases a <;> rfl)

theorem readsBack_state (s : State) : (Shape.oneOf State.naming).ReadsBack s :=
  Shape.readsBack_oneOf (by cases s <;> rfl)

theorem readsBack_muteKind (k : MuteKind) : (Shape.oneOf MuteKind.naming).ReadsBack k :=
  Shape.readsBack_oneOf (by cases k <;> rfl)

/-! ### The fields of each command -/

theorem registrationShape_beside (r : Registration) :
    registrationShape.ReadsBackBeside "cmd" r :=
  Shape.readsBackBeside_record (by decide)
    ⟨readsBack_textShape _, readsBack_textShape _, readsBack_textShape _, readsBack_agent _,
      trivial⟩ rfl

theorem turnEndShape_beside (t : TurnEnd) : turnEndShape.ReadsBackBeside "cmd" t :=
  Shape.readsBackBeside_record (by decide)
    ⟨readsBack_textShape _, Fields.fits_maybe (fun _ _ => ⟨readsBack_textShape _, nofun⟩)
      (Fields.fits_maybe (fun _ _ => ⟨readsBack_textShape _, nofun⟩) trivial)⟩ rfl

theorem unregisterShape_beside (id : String) : unregisterShape.ReadsBackBeside "cmd" id :=
  Shape.readsBackBeside_record (by decide) ⟨readsBack_textShape _, trivial⟩ rfl

theorem heartbeatShape_beside (id : String) : heartbeatShape.ReadsBackBeside "cmd" id :=
  Shape.readsBackBeside_record (by decide) ⟨readsBack_textShape _, trivial⟩ rfl

theorem stateShape_beside (p : String × State) : stateShape.ReadsBackBeside "cmd" p :=
  Shape.readsBackBeside_record (by decide) ⟨readsBack_textShape _, readsBack_state _, trivial⟩ rfl

theorem todosShape_beside (p : String × List String) : todosShape.ReadsBackBeside "cmd" p :=
  Shape.readsBackBeside_record (by decide)
    ⟨readsBack_textShape _, Shape.readsBack_list fun _ _ => readsBack_textShape _, trivial⟩ rfl

theorem muteShape_beside (p : String × MuteKind) : muteShape.ReadsBackBeside "cmd" p :=
  Shape.readsBackBeside_record (by decide)
    ⟨readsBack_textShape _, readsBack_muteKind _, trivial⟩ rfl

theorem queryShape_beside (filter : Option State) : queryShape.ReadsBackBeside "cmd" filter := by
  refine Shape.readsBackBeside_record (by decide) ⟨?_, trivial⟩ rfl
  cases filter with
  | none => rfl
  | some s => exact readsBack_filter s

/-- The names of the fields of a command are distinct, and none of them is `cmd`. -/
theorem nodup_fields (c : Command) : ("cmd" :: c.fields.members.map Prod.fst).Nodup := by
  cases c with
  | register r => exact (registrationShape_beside r).fresh
  | unregister id => exact (unregisterShape_beside id).fresh
  | state id s => exact (stateShape_beside (id, s)).fresh
  | stop t => exact (turnEndShape_beside t).fresh
  | todos id ts => exact (todosShape_beside (id, ts)).fresh
  | query filter => exact (queryShape_beside filter).fresh
  | heartbeat id => exact (heartbeatShape_beside id).fresh
  | mute id kind => exact (muteShape_beside (id, kind)).fresh
  | undoMute | clearLastMuted | subscribe | health => decide

/-- A command is read back from its fields, in whatever order they come. -/
theorem ofFields_fields (c : Command) {ms : List (String × Json)}
    (h : ms.Perm (c.fields.members.map fun m => (m.1, m.2.canonical))) :
    ofFields c.kind (.object ms) = .ok c := by
  cases c with
  | register r => exact congrArg (Except.map register) ((registrationShape_beside r).read _ ms h)
  | unregister id =>
    exact congrArg (Except.map unregister) ((unregisterShape_beside id).read _ ms h)
  | state id s =>
    exact congrArg (Except.map fun p => state p.1 p.2) ((stateShape_beside (id, s)).read _ ms h)
  | stop t => exact congrArg (Except.map stop) ((turnEndShape_beside t).read _ ms h)
  | todos id ts =>
    exact congrArg (Except.map fun p => todos p.1 p.2) ((todosShape_beside (id, ts)).read _ ms h)
  | query filter => exact congrArg (Except.map query) ((queryShape_beside filter).read _ ms h)
  | heartbeat id => exact congrArg (Except.map heartbeat) ((heartbeatShape_beside id).read _ ms h)
  | mute id kind =>
    exact congrArg (Except.map fun p => mute p.1 p.2) ((muteShape_beside (id, kind)).read _ ms h)
  | undoMute | clearLastMuted | subscribe | health => rfl

theorem find?_name (k : Kind) : Kind.naming.find? k.name = some k := by
  cases k <;> rfl

/-- A command is read back from the value that stands for it. -/
theorem ofJson_toJson (c : Command) : ofJson c.toJson.canonical = .ok c := by
  rw [toJson, Json.tagged, Json.canonical_object, List.map_cons]
  have keys : (("cmd", (Json.string c.name).canonical) ::
      c.fields.members.map fun m => (m.1, m.2.canonical)).map Prod.fst =
      "cmd" :: c.fields.members.map Prod.fst := by
    simp [Function.comp_def]
  have distinct := c.nodup_fields
  have hperm := Json.collect_perm (keys ▸ distinct)
  generalize Json.collect _ = ms at hperm ⊢
  have hfind : Json.find? "cmd" ms = some (.string c.name) := by
    refine Json.find?_of_mem ?_ (hperm.mem_iff.mpr List.mem_cons_self)
    rw [(hperm.map Prod.fst).nodup_iff, keys]
    exact distinct
  have hrest : (ms.filter fun m => m.1 ≠ "cmd").Perm
      (c.fields.members.map fun m => (m.1, m.2.canonical)) := by
    refine (hperm.filter _).trans ?_
    rw [List.filter_cons_of_neg (by simp), List.filter_eq_self.mpr]
    intro m hm
    obtain ⟨m', hm', rfl⟩ := List.mem_map.mp hm
    have other : m'.1 ≠ "cmd" := fun hkey =>
      (List.nodup_cons.mp distinct).1 (hkey ▸ List.mem_map.mpr ⟨m', hm', rfl⟩)
    simpa using other
  rw [ofJson]
  simp only [hfind, name, find?_name]
  rw [ofFields_fields c hrest]
  rfl

/-! ### The line of a command -/

/-- The members of a command are texts and lists of texts. -/
theorem plain_members (c : Command) (d : Nat) : ∀ m ∈ c.fields.members, m.2.Plain (d + 1) := by
  have text (s : String) : (Json.string s).Plain (d + 1) := .string s
  have texts (ts : List String) : (Json.array (ts.map Json.string)).Plain (d + 1) :=
    .array fun v hv => by
      obtain ⟨t, -, rfl⟩ := List.mem_map.mp hv
      exact .string t
  have text? (v : Option String) : v.isNone = false → ((Shape.optional textShape).toJson v).Plain
      (d + 1) := by
    cases v with
    | none => nofun
    | some s => exact fun _ => text s
  cases c with
  | register r =>
    exact Fields.forall_toMembers_cons (fun _ => text _) <|
      Fields.forall_toMembers_cons (fun _ => text _) <|
      Fields.forall_toMembers_cons (fun _ => text _) <|
      Fields.forall_toMembers_cons (fun _ => text _) nofun
  | unregister id | heartbeat id => exact Fields.forall_toMembers_cons (fun _ => text _) nofun
  | state id s | mute id kind =>
    exact Fields.forall_toMembers_cons (fun _ => text _) <|
      Fields.forall_toMembers_cons (fun _ => text _) nofun
  | stop t =>
    exact Fields.forall_toMembers_cons (fun _ => text _) <|
      Fields.forall_toMembers_cons (text? _) <|
      Fields.forall_toMembers_cons (text? _) nofun
  | todos id ts =>
    exact Fields.forall_toMembers_cons (fun _ => text _) <|
      Fields.forall_toMembers_cons (fun _ => texts ts) nofun
  | query filter =>
    refine Fields.forall_toMembers_cons (fun shown => ?_) nofun
    cases filter with
    | none => cases shown
    | some s => exact text _
  | undoMute | clearLastMuted | subscribe | health => exact nofun

theorem plain_toJson (c : Command) : c.toJson.Plain Json.depthLimit :=
  .object (List.forall_mem_cons.mpr ⟨.string _, c.plain_members 125⟩)

/-- **A command whose values are in order is accepted from its line.** -/
theorem accept_line {c : Command} (valid : c.check = .ok ()) : accept (utf8 c.line) = .ok c := by
  rw [accept, line, c.plain_toJson.parse_compact]
  simp only [ofJson_toJson, valid]
  rfl

/-- What is accepted has values that are in order. -/
theorem check_of_accept {line : Bytes} {c : Command} (h : accept line = .ok c) :
    c.check = .ok () := by
  unfold accept at h
  split at h
  · cases h
  · split at h
    · cases h
    · rename_i c' _
      cases hcheck : c'.check with
      | error p =>
        rw [hcheck] at h
        cases h
      | ok u =>
        rw [hcheck] at h
        cases h
        exact hcheck

/-- The line of a command is one line. -/
theorem not_mem_line (c : Command) : 0x0A ∉ utf8 c.line := by
  intro h
  rw [line, Json.utf8_compact] at h
  exact absurd (c.plain_toJson.le_of_mem_bytes _ h) (by decide)

/-- The line of a command is not blank, so it is a request with a body. -/
theorem ofLine_line (c : Command) : ofLine (utf8 c.line) = accept (utf8 c.line) := by
  refine if_neg fun h => ?_
  rw [line, Json.utf8_compact, toJson, Json.tagged, Json.bytes, List.all_cons,
    Bool.and_eq_true] at h
  exact absurd h.1 (by decide)

/-- **Commands come back from their lines.** The line of a command whose values are in order has
no line feed. Unless it is too long it is read off a connection as it is, however it is cut and
whatever follows, and taken for that command. And whatever is accepted for a command, the line
of that command is accepted for it as well. -/
theorem line_carried_and_accepted :
    (∀ c : Command, c.check = .ok () →
      0x0A ∉ utf8 c.line ∧
      ((utf8 c.line).length ≤ maxLineBytes →
        ∀ (as : List Arrival) (rest : Bytes), Carries as (utf8 c.line ++ 0x0A :: rest) →
          ∃ as', Carries as' rest ∧
            ∀ later, readLine [] (as ++ later) = (.line (utf8 c.line), as' ++ later)) ∧
      ofLine (utf8 c.line) = .ok c) ∧
    ∀ (bs : Bytes) (c : Command), accept bs = .ok c → accept (utf8 c.line) = .ok c := by
  refine ⟨fun c valid => ⟨c.not_mem_line, fun short as rest carried => ?_, ?_⟩, fun bs c h => ?_⟩
  · exact carried.readLine_line c.not_mem_line short
  · rw [c.ofLine_line]
    exact accept_line valid
  · exact accept_line (check_of_accept h)

/-- A todo list with quotes, control characters and more than ASCII, its line cut in two and
followed by the first byte of another one; and a registration that came with other names of its
fields, in another order and with one member more. -/
theorem line_carried_and_accepted_todos :
    let c : Command := .todos "a\n\"b" ["\\ \t", "é\u0001", "[✓] 漢"]
    let r : Command := .register ⟨"s", "", "/tmp", .codex⟩
    let given : Json := .object [("dir", .string "/tmp"), ("more", .null), ("id", .string "s"),
      ("cmd", .string "register"), ("agent_type", .string "codex")]
    (∃ as', Carries as' [0x7B] ∧ ∀ later,
      readLine [] ([.bytes ((utf8 c.line).take 9), .interrupted,
        .bytes ((utf8 c.line).drop 9 ++ [0x0A, 0x7B])] ++ later) =
          (.line (utf8 c.line), as' ++ later)) ∧
    ofLine (utf8 c.line) = .ok c ∧
    accept (utf8 given.compact) = .ok r ∧ accept (utf8 r.line) = .ok r := by
  intro c r given
  have hc := line_carried_and_accepted.1 c rfl
  have short : (utf8 c.line).length ≤ maxLineBytes := by
    rw [line, Json.utf8_compact]
    decide
  have carried : Carries [.bytes ((utf8 c.line).take 9), .interrupted,
      .bytes ((utf8 c.line).drop 9 ++ [0x0A, 0x7B])] (utf8 c.line ++ [0x0A, 0x7B]) := by
    have h := Carries.bytes ((utf8 c.line).take 9) (.interrupted
      (.bytes ((utf8 c.line).drop 9 ++ [0x0A, 0x7B]) .nil))
    rwa [List.append_nil, ← List.append_assoc, List.take_append_drop] at h
  have hgiven : accept (utf8 given.compact) = .ok r := by
    have plain : given.Plain Json.depthLimit := .object <| by
      simp only [List.forall_mem_cons]
      exact ⟨.string _, .null, .string _, .string _, .string _, nofun⟩
    rw [accept, plain.parse_compact]
    rfl
  exact ⟨hc.2.1 short _ _ carried, hc.2.2, hgiven, line_carried_and_accepted.2 _ _ hgiven⟩

end Command

end SessionWatch
