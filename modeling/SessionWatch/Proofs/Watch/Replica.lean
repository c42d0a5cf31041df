/-
# The replica of an observer

An observer decodes the lines that it is sent, starts from the sessions in the
first one and follows the events in the others. So it has the sessions of the
roster at any time, but for the instants at which they were last changed and
heard of. Each event agrees with what the replica holds when it comes: a
session is replaced exactly if the replica has it, a session that is taken off
or changed is there, and the state that a change names as the old one is the
one that the replica has.

The replica shows the roster if both give the same answer for every id. This
is kept by every effect of a request (`Shows.effect`), hence by a run. What the
lines are decoded as are the events of the run, so it is kept by reading them.

Key definitions: `Session.View`, `Replica`, `Replica.follow`, `Replica.read`,
`Replica.ofLines`, `Replica.Agrees`, `Replica.Shows`.
Key theorems: `Replica.Shows.effect`, `Watch.shows_run`,
`Watch.events_decoded`, `Watch.replica_eq_roster`.
-/
import Mathlib.Data.List.Nodup
import Mathlib.Data.List.Perm.Basic
import SessionWatch.Proofs.Roster.Listing
import SessionWatch.Proofs.Watch.Calendar
import SessionWatch.Proofs.Watch.Delivery

namespace SessionWatch

/-- What a replica keeps of a session. -/
structure Session.View where
  id : String
  label : String
  cwd : String
  agent : Agent
  state : State
  todos : List String
  muted : Bool
  registeredAt : Instant
  deriving DecidableEq

/-- A session without the instants at which it was last changed and heard of. -/
def Session.view (s : Session) : Session.View :=
  ⟨s.id, s.label, s.cwd, s.agent, s.state, s.todos, s.muted, s.registeredAt⟩

/-- The sessions as an observer knows them. -/
structure Replica where
  views : List Session.View
  deriving DecidableEq

namespace Replica

/-- The replica of a list of sessions. -/
def ofSessions (sessions : List Session) : Replica := ⟨sessions.map Session.view⟩

/-- What the replica holds of a session. -/
def find? (r : Replica) (id : String) : Option Session.View := r.views.find? fun v => v.id = id

/-- The replica without a session. -/
def without (r : Replica) (id : String) : Replica := ⟨r.views.filter fun v => v.id ≠ id⟩

/-- The replica with a session, in place of the one with its id. -/
def insert (r : Replica) (v : Session.View) : Replica := ⟨v :: (r.without v.id).views⟩

/-- The replica with one session changed. -/
def change (r : Replica) (id : String) (f : Session.View → Session.View) : Replica :=
  ⟨r.views.map fun v => if v.id = id then f v else v⟩

/-- The replica after an event. -/
def follow (r : Replica) : Event → Replica
  | .initialState sessions _ => ofSessions sessions
  | .sessionAdded s _ => r.insert s.view
  | .sessionRemoved id => r.without id
  | .stateChanged id _ new _ => r.change id ({ · with state := new })
  | .todosChanged id todos => r.change id ({ · with todos := todos })
  | .muteChanged .session id muted => r.change id ({ · with muted := muted })
  | .muteChanged _ _ _ => r

/-- The replica after a line; one that is no event is passed over. -/
def read (r : Replica) (line : String) : Replica := (Event.ofLine? line).elim r r.follow

/-- The replica that lines make, the first of which tells the sessions to start from. -/
def ofLines (lines : List String) : Replica := lines.foldl read ⟨[]⟩

/-- An event that comes to a replica says what the replica holds. -/
def Agrees (r : Replica) : Event → Prop
  | .initialState _ _ => True
  | .sessionAdded s replaced => replaced = true ↔ (r.find? s.id).isSome
  | .sessionRemoved id => (r.find? id).isSome
  | .stateChanged id old new s =>
    ∃ v, r.find? id = some v ∧ v.state = old ∧ s.view = { v with state := new }
  | .todosChanged id _ => (r.find? id).isSome
  | .muteChanged .session id _ => (r.find? id).isSome
  | .muteChanged _ _ _ => True

/-! ### Looking up -/

theorem find?_without (r : Replica) (id id' : String) :
    (r.without id).find? id' = if id' = id then none else r.find? id' := by
  unfold find? without
  rw [List.find?_filter]
  by_cases h : id' = id
  · rw [if_pos h, List.find?_eq_none]
    intro v _
    simp [h]
  · rw [if_neg h]
    congr 1
    funext v
    by_cases hv : v.id = id' <;> simp [hv, h]

theorem find?_insert (r : Replica) (v : Session.View) (id : String) :
    (r.insert v).find? id = if id = v.id then some v else r.find? id := by
  by_cases h : id = v.id
  · rw [if_pos h, find?, insert, List.find?_cons_of_pos (by simp [h])]
  · rw [if_neg h, find?, insert, List.find?_cons_of_neg (by simp [Ne.symm h])]
    have := find?_without r v.id id
    rw [if_neg h] at this
    exact this

theorem find?_change {f : Session.View → Session.View} (hf : ∀ v, (f v).id = v.id) (r : Replica)
    (id id' : String) :
    (r.change id f).find? id' = if id' = id then (r.find? id').map f else r.find? id' := by
  unfold find? change
  have same : ((fun v : Session.View => decide (v.id = id')) ∘
      fun v => if v.id = id then f v else v) = fun v => decide (v.id = id') := by
    funext v
    by_cases h : v.id = id <;> simp [h, hf]
  rw [List.find?_map, same]
  cases hv : r.views.find? fun v => v.id = id' with
  | none => simp
  | some v =>
    have hid : v.id = id' := by simpa using List.find?_some hv
    by_cases h : id' = id <;> simp [hid, h]

theorem ids_without (r : Replica) (id : String) :
    (r.without id).views.map Session.View.id = (r.views.map Session.View.id).filter (· ≠ id) := by
  simp [without, List.filter_map, Function.comp_def]

theorem ids_change {f : Session.View → Session.View} (hf : ∀ v, (f v).id = v.id) (r : Replica)
    (id : String) :
    (r.change id f).views.map Session.View.id = r.views.map Session.View.id := by
  unfold change
  rw [List.map_map]
  refine List.map_congr_left fun v _ => ?_
  by_cases h : v.id = id <;> simp [h, hf]

theorem find?_eq_some_iff {r : Replica} (hr : (r.views.map Session.View.id).Nodup) {id : String}
    {v : Session.View} : r.find? id = some v ↔ v ∈ r.views ∧ v.id = id := by
  constructor
  · intro h
    exact ⟨List.mem_of_find?_eq_some h, by simpa using List.find?_some h⟩
  · rintro ⟨hv, rfl⟩
    cases h : r.find? v.id with
    | none =>
      have := List.find?_eq_none.mp h v hv
      simp at this
    | some v' =>
      have hid : v'.id = v.id := by simpa using List.find?_some h
      rw [List.inj_on_of_nodup_map hr (List.mem_of_find?_eq_some h) hv hid]

/-- To read lines is to follow the events that they are decoded as. -/
theorem foldl_read (lines : List String) (r : Replica) :
    lines.foldl read r = (lines.filterMap Event.ofLine?).foldl follow r := by
  induction lines generalizing r with
  | nil => rfl
  | cons line lines ih =>
    rw [List.foldl_cons, ih, read, List.filterMap_cons]
    cases Event.ofLine? line <;> rfl

/-- An event that is read off the lines agrees with the replica of the lines before it, if each
of the events that they are decoded as agrees with what those before it lead to. -/
theorem agrees_ofLines {lines xs ys : List String} {line : String} {e initial : Event}
    {told : List Event} (decoded : lines.filterMap Event.ofLine? <+: initial :: told)
    (first : ∀ r : Replica, r.Agrees initial)
    (agrees : ∀ es e es', told = es ++ e :: es' →
      (es.foldl follow ((⟨[]⟩ : Replica).follow initial)).Agrees e)
    (cut : lines = xs ++ line :: ys) (event : Event.ofLine? line = some e) :
    (ofLines xs).Agrees e := by
  rw [cut, List.filterMap_append, List.filterMap_cons, event] at decoded
  obtain ⟨later, decoded⟩ := decoded
  rw [List.append_assoc] at decoded
  rw [ofLines, foldl_read]
  cases hxs : xs.filterMap Event.ofLine? with
  | nil =>
    rw [hxs] at decoded
    obtain ⟨rfl, -⟩ := List.cons.inj decoded
    exact first _
  | cons x es =>
    rw [hxs] at decoded
    obtain ⟨rfl, rest⟩ := List.cons.inj decoded
    exact agrees es e _ rest.symm

/-! ### Replicas of a roster -/

/-- The replica gives the same answer as the roster for every id. -/
structure Shows (r : Replica) (ro : Roster) : Prop where
  nodup : (r.views.map Session.View.id).Nodup
  find?_eq : ∀ id, r.find? id = (ro.find? id).map (·.session.view)

variable {r r' : Replica} {ro ro' : Roster}

theorem Shows.congr (h : r.Shows ro) (he : ro'.entries = ro.entries) : r.Shows ro' :=
  ⟨h.nodup, fun id => by rw [h.find?_eq, Roster.find?_congr he]⟩

theorem Shows.without (h : r.Shows ro) (id : String) :
    (r.without id).Shows { ro with entries := ro.others id } where
  nodup := by
    rw [ids_without]
    exact h.nodup.filter _
  find?_eq id' := by
    rw [find?_without, Roster.find?_others, h.find?_eq]
    split <;> rfl

theorem Shows.insert (h : r.Shows ro) (s : Session) (revision : Nat) :
    (r.insert s.view).Shows (ro.put s.id ⟨s, revision⟩) where
  nodup := by
    rw [Replica.insert, List.map_cons, List.nodup_cons, ids_without]
    exact ⟨by simp, h.nodup.filter _⟩
  find?_eq id := by
    rw [find?_insert, Roster.find?_put, h.find?_eq]
    show (if id = s.id then _ else _) = _
    split <;> rfl

/-- A change of a session is shown by the same change of its view. -/
theorem Shows.change (h : r.Shows ro) (f : Session.View → Session.View)
    (hf : ∀ v, (f v).id = v.id) {id : String} {e : Roster.Entry} (e' : Roster.Entry)
    (he : ro.find? id = some e) (hv : e'.session.view = f e.session.view) :
    (r.change id f).Shows (ro.put id e') where
  nodup := by
    rw [ids_change hf]
    exact h.nodup
  find?_eq id' := by
    rw [find?_change hf, Roster.find?_put, h.find?_eq]
    split
    · rename_i hid
      rw [hid, he, Option.map_some, Option.map_some, Option.map_some, hv]
    · rfl

theorem Shows.ofSessions (h : ro.Sound) : (ofSessions ro.sessions).Shows ro := by
  have mem {v : Session.View} : v ∈ (Replica.ofSessions ro.sessions).views ↔
      ∃ id e, ro.find? id = some e ∧ e.session.view = v := by
    simp only [Replica.ofSessions, List.mem_map, Roster.mem_sessions, h.find?_iff]
    constructor
    · rintro ⟨s, ⟨⟨id, e⟩, he, rfl⟩, rfl⟩
      exact ⟨id, e, he, rfl⟩
    · rintro ⟨id, e, he, rfl⟩
      exact ⟨e.session, ⟨(id, e), he, rfl⟩, rfl⟩
  have nodup : ((Replica.ofSessions ro.sessions).views.map Session.View.id).Nodup := by
    have ids : (Replica.ofSessions ro.sessions).views.map Session.View.id = ro.ids :=
      List.map_map
    rw [ids]
    exact h.nodup_ids
  refine ⟨nodup, fun id => Option.ext fun v => ?_⟩
  rw [find?_eq_some_iff nodup, mem, Option.map_eq_some_iff]
  constructor
  · rintro ⟨⟨id', e, he, rfl⟩, hid⟩
    have hid' : e.session.id = id := hid
    rw [← hid', h.id_eq he]
    exact ⟨e, he, rfl⟩
  · rintro ⟨e, he, rfl⟩
    exact ⟨⟨id, e, he, rfl⟩, h.id_eq he⟩

/-- Two replicas of one roster hold the same sessions. -/
theorem Shows.perm (h : r.Shows ro) (h' : r'.Shows ro) : r.views.Perm r'.views := by
  refine (List.perm_ext_iff_of_nodup (.of_map _ h.nodup) (.of_map _ h'.nodup)).mpr fun v => ?_
  have held {r : Replica} (h : r.Shows ro) : v ∈ r.views ↔ r.find? v.id = some v := by
    rw [find?_eq_some_iff h.nodup, and_iff_left rfl]
  rw [held h, held h', h.find?_eq, h'.find?_eq]

/-- **A replica follows every effect of a request**, and the event agrees with what the replica
holds when it comes. -/
theorem Shows.effect {now : Instant} {ev : Option Event} (h : r.Shows ro) (hs : ro.Sound)
    (he : ro.Effect now ro' ev) :
    (ev.elim r r.follow).Shows ro' ∧ ∀ e ∈ ev, r.Agrees e := by
  have there {id e} (found : ro.find? id = some e) : r.find? id = some e.session.view := by
    rw [h.find?_eq, found, Option.map_some]
  have holds {id e} (found : ro.find? id = some e) : (r.find? id).isSome := by
    rw [there found]
    rfl
  cases he with
  | quiet entries revision => exact ⟨h.congr entries, by simp⟩
  | registered reg =>
    have fresh : r.Shows ro.nextRevision := h.congr rfl
    refine ⟨fresh.insert (.fresh reg now) _, ?_⟩
    rintro e ⟨⟩
    show (ro.find? reg.id).isSome = true ↔ (r.find? reg.id).isSome
    rw [h.find?_eq, Option.isSome_map]
  | unregistered found =>
    refine ⟨h.without _, ?_⟩
    rintro e ⟨⟩
    exact holds found
  | @stateSet id e found s =>
    obtain rfl := hs.id_eq found
    have fresh : r.Shows ro.nextRevision := h.congr rfl
    refine ⟨fresh.change ({ · with state := s }) (fun _ => rfl) _ found rfl, ?_⟩
    rintro ev ⟨⟩
    exact ⟨e.session.view, there found, rfl, rfl⟩
  | todosSet found todos =>
    refine ⟨h.change ({ · with todos := todos }) (fun _ => rfl) _ found rfl, ?_⟩
    rintro e ⟨⟩
    exact holds found
  | @touched id e found =>
    -- the replica does not know when a session was heard of
    have same : r.change id (fun v => v) = r := by
      simp [Replica.change]
    refine ⟨?_, by simp⟩
    have := h.change (fun v => v) (fun _ => rfl) (e.seen now) found rfl
    rwa [same] at this
  | sessionMuted found flag entries revision =>
    refine ⟨(h.change ({ · with muted := flag }) (fun _ => rfl) _ found rfl).congr entries, ?_⟩
    rintro e ⟨⟩
    exact holds found
  | @otherMuted kind _ id flag outside entries revision =>
    cases kind with
    | session => exact absurd rfl outside
    | pr | repo | author =>
      refine ⟨h.congr entries, ?_⟩
      rintro e ⟨⟩
      exact trivial

end Replica

/-! ### Replicas along a run -/

namespace Watch

variable {n : Nat} {r : Replica}

theorem shows_step {s : Step} (hs : s.before.Sound) (h : r.Shows s.before.roster) :
    (s.event?.elim r r.follow).Shows s.after.roster ∧ ∀ e ∈ s.event?, r.Agrees e := by
  rcases s.effect with ⟨now, he⟩ | ⟨hr, he⟩
  · exact h.effect hs.roster he
  · rw [hr, he]
    exact ⟨h, by simp⟩

theorem foldl_events_cons (s : Step) (ss : List Step) (r : Replica) :
    (events (s :: ss)).foldl Replica.follow r =
      (events ss).foldl Replica.follow (s.event?.elim r r.follow) := by
  rw [events, List.filterMap_cons, events]
  cases s.event? <;> rfl

/-- A replica that shows the roster before a run and follows the events of the run shows the
roster after it. -/
theorem shows_run : ∀ (as : List Action) {w : Watch} {r : Replica}, w.Sound → r.Shows w.roster →
    ((events (w.steps as)).foldl Replica.follow r).Shows (w.run as).1.roster
  | [], _, _, _, h => h
  | a :: as, w, r, hw, h => by
    rw [steps_cons, foldl_events_cons]
    exact shows_run as (hw.act a) (shows_step (s := ⟨w, a⟩) hw h).1

/-- Every event of a run agrees with what the replica holds when it comes. -/
theorem agrees_run : ∀ (as : List Action) {w : Watch} {r : Replica} {xs ys : List Event}
    {e : Event}, w.Sound → r.Shows w.roster → events (w.steps as) = xs ++ e :: ys →
      (xs.foldl Replica.follow r).Agrees e
  | [], _, _, xs, _, _, _, _, told => by
    cases xs <;> cases told
  | a :: as, w, r, xs, ys, e, hw, h, told => by
    obtain ⟨shows, agrees⟩ := shows_step (s := ⟨w, a⟩) hw h
    rw [steps_cons, events, List.filterMap_cons] at told
    cases hev : Step.event? ⟨w, a⟩ with
    | none =>
      rw [hev] at shows told
      have kept : r.Shows (w.act a).1.roster := shows
      exact agrees_run as (hw.act a) kept told
    | some first =>
      rw [hev] at shows agrees told
      cases xs with
      | nil =>
        obtain ⟨rfl, -⟩ := List.cons.inj told
        exact agrees _ rfl
      | cons x xs =>
        obtain ⟨rfl, later⟩ := List.cons.inj told
        have followed : (r.follow first).Shows (w.act a).1.roster := shows
        show (xs.foldl Replica.follow (r.follow first)).Agrees e
        exact agrees_run as (hw.act a) followed later

/-! ### What an observer decodes -/

/-- All lines that are put in the mailbox of an observer from its first line on, be they read,
still there, or lost when it is let go of. -/
def stream (n : Nat) (w : Watch) (as : List Action) : List String :=
  w.queue n ++ arrivals n (w.steps as)

/-- A reply in the letters to an observer was sent to it. -/
theorem mem_of_reply {line : String} {as : List Action} : ∀ {w : Watch},
    .reply line ∈ letters n (w.steps as) → Action.sendTo n line ∈ as := by
  induction as with
  | nil => exact fun h => absurd h List.not_mem_nil
  | cons a as ih =>
    intro w h
    rw [steps_cons, letters_cons] at h
    rcases List.mem_append.mp h with first | later
    · refine List.mem_cons.mpr (.inl ?_)
      have letter : Step.letter? n ⟨w, a⟩ = some (.reply line) := by simpa using first
      cases a with
      | sendTo k line' =>
        obtain ⟨rfl, same⟩ := Option.ite_none_right_eq_some.mp letter
        obtain rfl := Letter.reply.inj (Option.some.inj same)
        rfl
      | ask r now =>
        obtain ⟨e, -, same⟩ := Option.map_eq_some_iff.mp letter
        cases same
      | subscribe | remove | take | drain | drop => cases letter
    · exact List.mem_cons_of_mem _ (ih later)

/-- **The lines that are addressed to an observer are decoded as the events of the run**, if the
readings are of the calendar and no reply could be taken for an event. -/
theorem events_decoded {w : Watch} (h : w.roster.InCalendar) {as : List Action}
    (dated : ∀ t ∈ readings (w.steps as), t.InCalendar)
    (replies : ∀ line, Action.sendTo n line ∈ as → Event.ofLine? line = none) :
    ((letters n (w.steps as)).map Letter.line).filterMap Event.ofLine? = events (w.steps as) := by
  rw [List.filterMap_map, ← events_letters n]
  refine List.filterMap_congr fun l hl => ?_
  cases l with
  | event e => exact Event.ofLine?_line ((inCalendar_run h dated).2 e (mem_events_iff.mpr hl))
  | reply line => exact replies line (mem_of_reply hl)

/-- **A replica is the roster.** The readings of the clock are instants of the calendar, and no line
that is sent to the observer on its own is an event. Then what the lines of its stream are decoded
as is what it starts from and then the events from there on, all of them if it is on the list. In
that case the replica that it makes of the lines is the roster, each session once. Each event
agrees with what the replica of the lines before it holds. -/
theorem replica_eq_roster (capacity limit n : Nat) (before after : List Action)
    (subscribed : (((Watch.new capacity limit).run before).1.act .subscribe).2 =
      .subscribed (.ok n))
    (dated : ∀ t ∈ readings ((Watch.new capacity limit).steps (before ++ .subscribe :: after)),
      t.InCalendar)
    (replies : ∀ line, Action.sendTo n line ∈ after → Event.ofLine? line = none) :
    let start := ((Watch.new capacity limit).run before).1
    let watch := (start.act .subscribe).1
    let final := (watch.run after).1
    let lines := stream n watch after
    let initial := Event.initialState start.roster.sessions start.roster.lastMuted
    let told := events (watch.steps after)
    lines.filterMap Event.ofLine? <+: initial :: told ∧
    (final.Lists n →
      lines = initial.line :: (letters n (watch.steps after)).map Letter.line ∧
      lines.filterMap Event.ofLine? = initial :: told ∧
      (Replica.ofLines lines).views.Perm (final.roster.sessions.map Session.view) ∧
      ((Replica.ofLines lines).views.map Session.View.id).Nodup) ∧
    ∀ xs line ys e, lines = xs ++ line :: ys → Event.ofLine? line = some e →
      (Replica.ofLines xs).Agrees e := by
  intro start watch final lines initial told
  have hstart : start.Sound := sound_run capacity limit before
  have hwatch : watch.Sound := hstart.act .subscribe
  have hfinal : final.Sound := hwatch.run after
  have hbox := find?_act_subscribe hstart subscribed
  have same : watch.roster = start.roster := roster_subscribe start
  rw [steps_append, readings, List.filterMap_append, List.forall_mem_append] at dated
  obtain ⟨dated_before, dated_after⟩ := dated
  have calendar : start.roster.InCalendar :=
    (inCalendar_run Roster.inCalendar_empty dated_before).1
  have first : Event.ofLine? start.initialLine = some initial :=
    ofLine?_initialLine hstart calendar
  have decoded : ((letters n (watch.steps after)).map Letter.line).filterMap Event.ofLine? = told :=
    events_decoded (same ▸ calendar) dated_after replies
  have split : lines = start.initialLine :: arrivals n (watch.steps after) := by
    show watch.queue n ++ _ = _
    rw [queue_eq hbox]
    rfl
  have read : lines.filterMap Event.ofLine? <+: initial :: told := by
    obtain ⟨-, -, sent, -⟩ := arrivals_run after hbox
    rw [split, List.filterMap_cons, first, ← decoded]
    exact (List.prefix_append_right_inj [initial]).mpr (sent.filterMap _)
  have shows : ((⟨[]⟩ : Replica).follow initial).Shows watch.roster := by
    rw [same]
    exact .ofSessions hstart.roster
  refine ⟨read, fun hlisted => ?_, fun xs line ys e cut event => ?_⟩
  · have whole : lines = initial.line :: (letters n (watch.steps after)).map Letter.line := by
      rw [split, arrivals_of_lists hbox hlisted]
      rfl
    have all : lines.filterMap Event.ofLine? = initial :: told := by
      rw [split, arrivals_of_lists hbox hlisted, List.filterMap_cons, first, decoded]
    have replica : (Replica.ofLines lines).Shows final.roster := by
      rw [Replica.ofLines, Replica.foldl_read, all]
      exact shows_run after hwatch shows
    exact ⟨whole, all, replica.perm (.ofSessions hfinal.roster), replica.nodup⟩
  · exact Replica.agrees_ofLines read (fun _ => trivial)
      (fun _ _ _ split => agrees_run after hwatch shows split) cut event

/-- A session registered before its observer came is changed and registered anew, and a reply comes
in between. -/
theorem replica_eq_roster_anew :
    let noon : Instant := ⟨⟨2024, 3, 1⟩, 43200, 0⟩
    let one : Roster.Request := .register ⟨"one", "first", "/src", .claude⟩
    let start := ((Watch.new 4 1).run [.ask one noon]).1
    let watch := (start.act .subscribe).1
    let after := [Action.ask (.setState "one" .idle) noon, .sendTo 1 (Reply.line { ok := true }),
      .ask one noon]
    (start.act .subscribe).2 = .subscribed (.ok 1) ∧ (watch.run after).1.Lists 1 ∧
      (stream 1 watch after).length = 4 ∧
      ((stream 1 watch after).filterMap Event.ofLine?).map Event.kind =
        [.initialState, .stateChanged, .sessionAdded] ∧
      (Replica.ofLines (stream 1 watch after)).views.Perm
        ((watch.run after).1.roster.sessions.map Session.view) := by
  intro noon one start watch after
  have subscribed : (start.act .subscribe).2 = .subscribed (.ok 1) := rfl
  have listed : (watch.run after).1.Lists 1 := ⟨_, rfl, rfl⟩
  have read : readings ((Watch.new 4 1).steps ([.ask one noon] ++ .subscribe :: after)) =
      [noon, noon, noon] := rfl
  have shown : noon.InCalendar := ⟨by decide, by decide⟩
  have replies : ∀ line, Action.sendTo 1 line ∈ after → Event.ofLine? line = none := by
    intro line sent
    obtain rfl : line = Reply.line { ok := true } := by simpa [after] using sent
    exact Reply.ofLine?_line_of_bare rfl
  have dated : ∀ t ∈ readings ((Watch.new 4 1).steps ([.ask one noon] ++ .subscribe :: after)),
      t.InCalendar := by
    rw [read]
    simp [shown]
  obtain ⟨-, whole, -⟩ := replica_eq_roster 4 1 1 [.ask one noon] after subscribed dated replies
  obtain ⟨lines, decoded, same, -⟩ := whole listed
  refine ⟨subscribed, listed, ?_, ?_, same⟩
  · exact (congrArg List.length lines).trans rfl
  · exact (congrArg (List.map Event.kind) decoded).trans rfl

end Watch

end SessionWatch
