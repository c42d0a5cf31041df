/-
# Lines that a daemon writes

An event and a reply are one line each, and the line is decoded as what it
was written for: the instants in it with all their places, the fields that
are left out, the value that a reply carries. The line of an event is no
reply and the line of a reply no event, since an event has no `ok` and a
reply does not say what event it is. So an observer, who gets both on one
connection, can tell them apart.

Key definitions: `Session.IsWritable`, `Session.InCalendar`, `Event.IsWritable`,
`Event.InCalendar`, `Event.ofLine?`, `Reply.IsWritable`.
Key theorems: `Session.readsBack`, `Event.decode_line`, `Reply.decode_line`,
`Reply.decode_line_of_bare`, `Reply.decode_as_event`, `Event.line_told_apart`.
-/
import SessionWatch.Proofs.Schema.ReadBack
import SessionWatch.Proofs.Schema.TextReading
import SessionWatch.Proofs.Time.Rfc3339
import SessionWatch.Proofs.Wire.CommandLine
import SessionWatch.Wire.Event
import SessionWatch.Wire.Reply

namespace SessionWatch

open Text (utf8)

/-! ### Sessions and records -/

theorem readsBack_moment {t : Instant} (h : t.InCalendar) : momentShape.ReadsBack t := by
  refine Shape.ReadsBack.refine (Shape.readsBack_text _ _) ?_
  rw [Instant.parse_text h]
  rfl

/-- The instants of a session are in years of four digits and outside of leap seconds. -/
structure Session.IsWritable (s : Session) : Prop where
  registered : s.registeredAt.IsWritable
  updated : s.updatedAt.IsWritable
  seen : s.seenAt.IsWritable

/-- The instants of a session are ones that clocks and calendars show. -/
structure Session.InCalendar (s : Session) : Prop where
  registered : s.registeredAt.InCalendar
  updated : s.updatedAt.InCalendar
  seen : s.seenAt.InCalendar

namespace Session

open Command (readsBack_textShape readsBack_agent readsBack_state)

theorem IsWritable.inCalendar {s : Session} (h : s.IsWritable) : s.InCalendar :=
  ⟨h.registered.inCalendar, h.updated.inCalendar, h.seen.inCalendar⟩

theorem readsBack {s : Session} (h : s.InCalendar) : shape.ReadsBack s :=
  Shape.readsBack_record (by decide)
    ⟨readsBack_textShape _, readsBack_textShape _, readsBack_textShape _, readsBack_agent _,
      readsBack_state _, Shape.readsBack_list fun _ _ => readsBack_textShape _,
      Shape.readsBack_flag _, readsBack_moment h.registered, readsBack_moment h.updated,
      readsBack_moment h.seen, trivial⟩ rfl

/-- A session is an object of texts, flags and a list of texts. -/
theorem plain_toJson (s : Session) (d : Nat) : (shape.toJson s).Plain (d + 2) := by
  have text (t : String) : (Json.string t).Plain (d + 1) := .string t
  have todos : (Json.array (s.todos.map Json.string)).Plain (d + 1) := .array fun v hv => by
    obtain ⟨t, -, rfl⟩ := List.mem_map.mp hv
    exact .string t
  exact .object <| Fields.forall_toMembers_cons (fun _ => text _) <|
    Fields.forall_toMembers_cons (fun _ => text _) <|
    Fields.forall_toMembers_cons (fun _ => text _) <|
    Fields.forall_toMembers_cons (fun _ => text _) <|
    Fields.forall_toMembers_cons (fun _ => text _) <|
    Fields.forall_toMembers_cons (fun _ => todos) <|
    Fields.forall_toMembers_cons (fun _ => .bool _) <|
    Fields.forall_toMembers_cons (fun _ => text _) <|
    Fields.forall_toMembers_cons (fun _ => text _) <|
    Fields.forall_toMembers_cons (fun _ => text _) nofun

theorem plain_list (sessions : List Session) (d : Nat) :
    ((Shape.list shape).toJson sessions).Plain (d + 3) :=
  .array fun v hv => by
    obtain ⟨s, -, rfl⟩ := List.mem_map.mp hv
    exact s.plain_toJson d

end Session

namespace MuteRecord

open Command (readsBack_textShape readsBack_muteKind)

theorem readsBack {r : MuteRecord} (h : r.mutedAt.InCalendar) : shape.ReadsBack r :=
  Shape.readsBack_record (by decide)
    ⟨readsBack_muteKind _, readsBack_textShape _, readsBack_moment h, trivial⟩ rfl

theorem plain_toJson (r : MuteRecord) (d : Nat) : (shape.toJson r).Plain (d + 1) :=
  .object <| Fields.forall_toMembers_cons (fun _ => .string _) <|
    Fields.forall_toMembers_cons (fun _ => .string _) <|
    Fields.forall_toMembers_cons (fun _ => .string _) nofun

end MuteRecord

/-! ### Events -/

namespace Event

open Command (readsBack_textShape readsBack_state readsBack_muteKind)

/-- The instants of an event can be written. -/
def IsWritable : Event → Prop
  | initialState sessions last =>
    (∀ s ∈ sessions, s.IsWritable) ∧ ∀ r ∈ last, r.mutedAt.IsWritable
  | sessionAdded s _ | stateChanged _ _ _ s => s.IsWritable
  | sessionRemoved _ | todosChanged _ _ | muteChanged _ _ _ => True

/-- The instants of an event are ones that clocks and calendars show. -/
def InCalendar : Event → Prop
  | initialState sessions last =>
    (∀ s ∈ sessions, s.InCalendar) ∧ ∀ r ∈ last, r.mutedAt.InCalendar
  | sessionAdded s _ | stateChanged _ _ _ s => s.InCalendar
  | sessionRemoved _ | todosChanged _ _ | muteChanged _ _ _ => True

theorem IsWritable.inCalendar {e : Event} (h : e.IsWritable) : e.InCalendar := by
  cases e with
  | initialState sessions last =>
    exact ⟨fun s hs => (h.1 s hs).inCalendar, fun r hr => (h.2 r hr).inCalendar⟩
  | sessionAdded | stateChanged => exact Session.IsWritable.inCalendar h
  | sessionRemoved | todosChanged | muteChanged => trivial

theorem find?_name (k : Kind) : Kind.naming.read k.name = .ok k := by
  cases k <;> rfl

/-- The names of the fields of an event. -/
def Kind.keys : Kind → List String
  | .initialState => ["sessions", "last_muted"]
  | .sessionAdded => ["session", "replaced"]
  | .sessionRemoved => ["id"]
  | .stateChanged => ["id", "old_state", "new_state", "session"]
  | .todosChanged => ["id", "todos"]
  | .muteChanged => ["kind", "id", "muted"]

theorem fields_eq (e : Event) : e.fields = .object e.fields.members := by
  cases e <;> rfl

theorem keys_fields (e : Event) : e.fields.members.map Prod.fst = e.kind.keys := by
  cases e <;> rfl

/-- No event has a field with the name of the tag, nor one that every reply has. -/
theorem not_mem_keys (e : Event) :
    "event" ∉ e.fields.members.map Prod.fst ∧ "ok" ∉ e.fields.members.map Prod.fst := by
  rw [keys_fields]
  cases e.kind <;> decide

/-- An event is read back from its fields. -/
theorem ofFields_fields {e : Event} (h : e.InCalendar) : ofFields e.kind e.fields = .ok e := by
  cases e with
  | initialState sessions last =>
    have fits : initialStateShape.ReadsBack (sessions, last) :=
      Shape.readsBack_record (by decide)
        ⟨Shape.readsBack_list fun s hs => Session.readsBack (h.1 s hs), by
          cases last with
          | none => exact Shape.readsBack_none
          | some r => exact (MuteRecord.readsBack (h.2 r rfl)).some nofun, trivial⟩ rfl
    exact congrArg (Except.map fun p => initialState p.1 p.2) (fits .buffered _ .written)
  | sessionAdded s replaced =>
    have fits : sessionAddedShape.ReadsBack (s, replaced) :=
      Shape.readsBack_record (by decide)
        ⟨Session.readsBack h, Shape.readsBack_flag _, trivial⟩ rfl
    exact congrArg (Except.map fun p => sessionAdded p.1 p.2) (fits .buffered _ .written)
  | sessionRemoved id =>
    have fits : sessionRemovedShape.ReadsBack id :=
      Shape.readsBack_record (by decide) ⟨readsBack_textShape _, trivial⟩ rfl
    exact congrArg (Except.map sessionRemoved) (fits .buffered _ .written)
  | stateChanged id old new s =>
    have fits : stateChangedShape.ReadsBack (id, old, new, s) :=
      Shape.readsBack_record (by decide)
        ⟨readsBack_textShape _, readsBack_state _, readsBack_state _,
          Session.readsBack h, trivial⟩ rfl
    exact congrArg (Except.map fun p => stateChanged p.1 p.2.1 p.2.2.1 p.2.2.2)
      (fits .buffered _ .written)
  | todosChanged id todos =>
    have fits : todosChangedShape.ReadsBack (id, todos) :=
      Shape.readsBack_record (by decide)
        ⟨readsBack_textShape _, Shape.readsBack_list fun _ _ => readsBack_textShape _, trivial⟩ rfl
    exact congrArg (Except.map fun p => todosChanged p.1 p.2) (fits .buffered _ .written)
  | muteChanged kind id muted =>
    have fits : muteChangedShape.ReadsBack (kind, id, muted) :=
      Shape.readsBack_record (by decide)
        ⟨readsBack_muteKind _, readsBack_textShape _, Shape.readsBack_flag _, trivial⟩ rfl
    exact congrArg (Except.map fun p => muteChanged p.1 p.2.1 p.2.2) (fits .buffered _ .written)

/-- Whatever an event tells, it is made of texts, flags, lists and objects. -/
theorem plain_fields (e : Event) (d : Nat) : ∀ m ∈ e.fields.members, m.2.Plain (d + 3) := by
  have text (t : String) : (Json.string t).Plain (d + 3) := .string t
  cases e with
  | initialState sessions last =>
    refine Fields.forall_toMembers_cons (fun _ => Session.plain_list sessions d) <|
      Fields.forall_toMembers_cons (fun _ => ?_) nofun
    cases last with
    | none => exact .null
    | some r => exact r.plain_toJson (d + 2)
  | sessionAdded s replaced =>
    exact Fields.forall_toMembers_cons (fun _ => s.plain_toJson (d + 1)) <|
      Fields.forall_toMembers_cons (fun _ => .bool _) nofun
  | sessionRemoved id => exact Fields.forall_toMembers_cons (fun _ => text _) nofun
  | stateChanged id old new s =>
    exact Fields.forall_toMembers_cons (fun _ => text _) <|
      Fields.forall_toMembers_cons (fun _ => text _) <|
      Fields.forall_toMembers_cons (fun _ => text _) <|
      Fields.forall_toMembers_cons (fun _ => s.plain_toJson (d + 1)) nofun
  | todosChanged id todos =>
    refine Fields.forall_toMembers_cons (fun _ => text _) <|
      Fields.forall_toMembers_cons (fun _ => .array fun v hv => ?_) nofun
    obtain ⟨t, -, rfl⟩ := List.mem_map.mp hv
    exact .string t
  | muteChanged kind id muted =>
    exact Fields.forall_toMembers_cons (fun _ => text _) <|
      Fields.forall_toMembers_cons (fun _ => text _) <|
      Fields.forall_toMembers_cons (fun _ => .bool _) nofun

theorem toJson_eq (e : Event) :
    e.toJson = .object (("event", .string e.kind.name) :: e.fields.members) := rfl

theorem plain_toJson (e : Event) : e.toJson.Plain Json.depthLimit :=
  .object (List.forall_mem_cons.mpr ⟨.string _, e.plain_fields 123⟩)

/-- **An event is decoded from its line.** -/
theorem decode_line {e : Event} (h : e.InCalendar) : decode (utf8 e.line) = .ok e := by
  apply toOption_eq_some.mp
  rw [decode, line, toJson_eq, decodeTagged_compact (find?_name e.kind) e.not_mem_keys.1
    (e.plain_fields 123), ← e.fields_eq, ofFields_fields h]
  rfl

/-- The event that an observer makes of a line, if it is one. -/
def ofLine? (line : String) : Option Event := (decode (utf8 line)).toOption

theorem ofLine?_line {e : Event} (h : e.InCalendar) : ofLine? e.line = some e := by
  rw [ofLine?, decode_line h]
  rfl

end Event

/-! ### Replies -/

namespace Reply

open Command (readsBack_textShape readsBack_state)

/-- What a reply carries can be written: the instants of its sessions, and a value that is not
null, in order by keys, and has integers only and not too many brackets inside one another. -/
structure IsWritable (r : Reply) : Prop where
  sessions : ∀ ss ∈ r.sessions, ∀ s ∈ ss, s.IsWritable
  data : ∀ v ∈ r.data, v ≠ .null ∧ v.canonical = v ∧ v.Plain (Json.depthLimit - 1)

theorem readsBack {r : Reply} (dated : ∀ ss ∈ r.sessions, ∀ s ∈ ss, s.InCalendar)
    (data : ∀ v ∈ r.data, v ≠ .null ∧ v.canonical = v) : shape.ReadsBack r := by
  refine Shape.readsBack_record (by decide)
    ⟨Shape.readsBack_flag _, Fields.fits_maybe ?_ (Fields.fits_maybe ?_ (Fields.fits_maybe ?_
      (Fields.fits_maybe ?_ (Fields.fits_maybe ?_ (Fields.fits_maybe ?_ trivial)))))⟩ rfl
  · exact fun _ _ => ⟨readsBack_textShape _, nofun⟩
  · exact fun _ _ => ⟨readsBack_textShape _, nofun⟩
  · exact fun ss hss =>
      ⟨Shape.readsBack_list fun s hs => Session.readsBack (dated ss hss s hs), nofun⟩
  · exact fun _ _ => ⟨readsBack_state _, nofun⟩
  · exact fun _ _ => ⟨Shape.readsBack_flag _, nofun⟩
  · intro v hv
    obtain ⟨there, sorted⟩ := data v hv
    exact ⟨Shape.readsBack_any sorted, there⟩

/-- A reply is an object without the key `event`. -/
theorem toJson_eq (r : Reply) : ∃ ms, shape.toJson r = .object ms ∧ "event" ∉ ms.map Prod.fst := by
  refine ⟨_, rfl, fun h => ?_⟩
  obtain ⟨m, hm, tag⟩ := List.mem_map.mp h
  have name := Fields.name_of_mem_toMembers _ _ hm
  rw [tag] at name
  exact absurd name (by decide)

/-- Whatever a reply carries besides its data, it is made of texts, flags, lists and objects. -/
theorem plain_toJson_of_data {r : Reply} (data : ∀ v ∈ r.data, v.Plain (Json.depthLimit - 1)) :
    (shape.toJson r).Plain Json.depthLimit := by
  have given {α : Type} {s : Shape α} {v : Option α}
      (plain : ∀ a ∈ v, (s.toJson a).Plain (Json.depthLimit - 1)) :
      v.isNone = false → ((Shape.optional s).toJson v).Plain (Json.depthLimit - 1) := by
    cases v with
    | none => nofun
    | some a => exact fun _ => plain a rfl
  exact .object <| Fields.forall_toMembers_cons (fun _ => .bool _) <|
    Fields.forall_toMembers_cons (given fun _ _ => .string _) <|
    Fields.forall_toMembers_cons (given fun _ _ => .string _) <|
    Fields.forall_toMembers_cons (given fun ss _ => Session.plain_list ss 123) <|
    Fields.forall_toMembers_cons (given fun _ _ => .string _) <|
    Fields.forall_toMembers_cons (given fun _ _ => .bool _) <|
    Fields.forall_toMembers_cons (given data) nofun

theorem plain_toJson {r : Reply} (h : r.IsWritable) : (shape.toJson r).Plain Json.depthLimit :=
  plain_toJson_of_data fun v hv => (h.data v hv).2.2

theorem decode_line_of_readsBack {r : Reply} (h : shape.ReadsBack r)
    (plain : (shape.toJson r).Plain Json.depthLimit) : decode (utf8 r.line) = .ok r := by
  have read : shape.ofJson .parsed (shape.toJson r) = .ok r := h .parsed _ .written
  apply toOption_eq_some.mp
  rw [decode, line, shape.decode_compact plain, read]
  rfl

/-- **A reply is decoded from its line.** -/
theorem decode_line {r : Reply} (h : r.IsWritable) : decode (utf8 r.line) = .ok r :=
  decode_line_of_readsBack
    (readsBack (fun ss hss s hs => (h.sessions ss hss s hs).inCalendar)
      fun v hv => ⟨(h.data v hv).1, (h.data v hv).2.1⟩)
    (plain_toJson h)

theorem plain_toJson_of_bare {r : Reply} (bare : r.data = none) :
    (shape.toJson r).Plain Json.depthLimit :=
  plain_toJson_of_data (bare ▸ fun v hv => absurd hv (Option.not_mem_none v))

/-- A reply without data is decoded from its line whatever the years of its sessions. -/
theorem decode_line_of_bare {r : Reply} (bare : r.data = none)
    (dated : ∀ ss ∈ r.sessions, ∀ s ∈ ss, s.InCalendar) : decode (utf8 r.line) = .ok r :=
  decode_line_of_readsBack
    (readsBack dated (bare ▸ fun v hv => absurd hv (Option.not_mem_none v)))
    (plain_toJson_of_bare bare)

/-- **The line of a reply is refused as an event.** -/
theorem decode_as_event {r : Reply} (plain : (shape.toJson r).Plain Json.depthLimit) :
    ∃ why, Event.decode (utf8 r.line) = .error why := by
  obtain ⟨ms, object, untagged⟩ := r.toJson_eq
  rw [object] at plain
  cases plain with
  | object members =>
    rw [Event.decode, line, object]
    exact decodeTagged_untagged untagged members

theorem ofLine?_line_of_bare {r : Reply} (bare : r.data = none) : Event.ofLine? r.line = none := by
  obtain ⟨why, refused⟩ := decode_as_event (plain_toJson_of_bare bare)
  rw [Event.ofLine?, refused]
  rfl

/-- An object without the first field of a record, which has to be there, is refused. -/
theorem toOption_ofJson_of_missing {α β γ σ : Type} {source : Source} {title name : String}
    {s : Shape α} {rest : Fields β σ} {into : α × β → γ} {back : γ → α × β}
    {ms : List (String × Json)} (distinct : (Fields.plain name s rest).names.Nodup)
    (missing : name ∉ ms.map Prod.fst) :
    (((Shape.record title (.plain name s rest)).via into back).ofJson source
      (.object ms)).toOption = none := by
  have absent : under [name] ms = [] := under_eq_nil fun m hm own =>
    missing (List.mem_map.mpr ⟨m, hm, List.mem_singleton.mp own⟩)
  have record : ((Shape.record title (.plain name s rest)).ofJson source (.object ms)).toOption =
      none := by
    rw [Shape.ofJson_record_byName distinct, Fields.plain, Fields.byName?, absent]
    rfl
  rw [Shape.via, Shape.ofJson]
  cases hr : (Shape.record title (.plain name s rest)).ofJson source (.object ms) with
  | error m => rfl
  | ok a =>
    rw [hr] at record
    cases record

end Reply

/-! ### Lines on one connection -/

namespace Event

/-- **Lines of events and replies can be told apart, and each is decoded as what it was written
for.** A line has no control character, so it is one line. An event is decoded from its line, and
so is a reply, with all that they carry. The line of an event is refused as a reply, and the line
of a reply as an event. -/
theorem line_told_apart {e : Event} {r : Reply} (he : e.IsWritable) (hr : r.IsWritable) :
    (∀ b ∈ utf8 e.line, 0x20 ≤ b) ∧ (∀ b ∈ utf8 r.line, 0x20 ≤ b) ∧
    decode (utf8 e.line) = .ok e ∧ Reply.decode (utf8 r.line) = .ok r ∧
    (∃ why, Reply.decode (utf8 e.line) = .error why) ∧
    ∃ why, decode (utf8 r.line) = .error why := by
  refine ⟨fun b hb => ?_, fun b hb => ?_, decode_line he.inCalendar, Reply.decode_line hr, ?_,
    Reply.decode_as_event (Reply.plain_toJson hr)⟩
  · rw [line, Json.utf8_compact] at hb
    exact UInt8.le_iff_toNat_le.mpr (e.plain_toJson.le_of_mem_bytes b hb)
  · rw [Reply.line, Json.utf8_compact] at hb
    exact UInt8.le_iff_toNat_le.mpr ((Reply.plain_toJson hr).le_of_mem_bytes b hb)
  · have no_ok : "ok" ∉ (("event", Json.string e.kind.name) :: e.fields.members).map Prod.fst := by
      rw [List.map_cons, List.mem_cons, not_or]
      exact ⟨(by decide : "ok" ≠ "event"), e.not_mem_keys.2⟩
    have refused : (Reply.decode (utf8 e.line)).toOption = none := by
      rw [Reply.decode, line, Reply.shape.decode_compact e.plain_toJson, toJson_eq]
      exact Reply.toOption_ofJson_of_missing (by decide) no_ok
    cases hd : Reply.decode (utf8 e.line) with
    | error why => exact ⟨why, rfl⟩
    | ok r' =>
      rw [hd] at refused
      cases refused

/-- A session with three kinds of places in its instants and texts that need escapes, and a reply
that carries it along with a value. -/
theorem line_told_apart_session :
    let day : Date := ⟨2024, 2, 29⟩
    let s : Session := ⟨"a\"b", "é\n", "/src", .codex, .idle, ["[ ] \t漢"], true, ⟨day, 0, 0⟩,
      ⟨day, 86399, 120000000⟩, ⟨day, 43200, 7⟩⟩
    let e : Event := .stateChanged s.id .working .idle s
    let v : Json := .object [("count", .number (.int (-3))),
      ("items", .array [.null, .bool true, .string "x"])]
    let r : Reply := { ok := true, sessions := some [s], data := some v }
    e.IsWritable ∧ r.IsWritable ∧
    (∀ b ∈ utf8 e.line, 0x20 ≤ b) ∧ decode (utf8 e.line) = .ok e ∧
    Reply.decode (utf8 r.line) = .ok r ∧ (∃ why, Reply.decode (utf8 e.line) = .error why) ∧
    ∃ why, decode (utf8 r.line) = .error why := by
  intro day s e v r
  have moment (second nano : Nat) (hs : second < Instant.dayLength) (hn : nano < 1000000000) :
      (⟨day, second, nano⟩ : Instant).IsWritable :=
    ⟨⟨(by decide : Date.IsValid ⟨2024, 2, 29⟩), hs, .inl hn⟩,
      (by decide : (0 : Int) ≤ 2024 ∧ (2024 : Int) ≤ 9999), hn⟩
  have session : s.IsWritable := ⟨moment _ _ (by decide) (by decide),
    moment _ _ (by decide) (by decide), moment _ _ (by decide) (by decide)⟩
  have plain : v.Plain (Json.depthLimit - 1) := by
    refine .object (List.forall_mem_cons.mpr ⟨.int (by decide) (by decide),
      List.forall_mem_singleton.mpr (.array ?_)⟩)
    simp only [List.forall_mem_cons]
    exact ⟨.null, .bool _, .string _, List.forall_mem_nil _⟩
  have reply : r.IsWritable := by
    refine ⟨?_, ?_⟩
    · rintro _ ⟨⟩ s' hs'
      obtain rfl := List.mem_singleton.mp hs'
      exact session
    · rintro _ ⟨⟩
      exact ⟨by simp [v], rfl, plain⟩
  obtain ⟨one, -, event, answer, no_reply, no_event⟩ :=
    line_told_apart (e := e) (r := r) session reply
  exact ⟨session, reply, one, event, answer, no_reply, no_event⟩

end Event

end SessionWatch
