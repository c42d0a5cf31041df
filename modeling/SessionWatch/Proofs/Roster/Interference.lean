/-
# Sessions do not interfere

Two parties take turns at one roster, each with sessions of its own. What a
party is answered, what becomes of its sessions and what is told of them is
the same as if the other party were not there, in whatever order the two take
their turns.

The two share the counter of revisions, so a session has different revisions
with and without the other party. What counts is only whether the revision of
a session is still that of a ticket, and that is the same (`Alike`): a
revision that is given out is ahead of all tickets, and a request that gives
none to a session leaves the one it has.

Key definitions: `Roster.Move`, `Roster.Scene`, `Roster.Scene.run`,
`Roster.Told`, `Roster.Scene.Like`.
Key theorems: `Roster.Scene.Like.own`, `Roster.Scene.Like.other`,
`Roster.Scene.alone_eq`.
-/
import Mathlib.Data.List.Forall2
import Mathlib.Data.Set.Insert
import SessionWatch.Proofs.Roster.Deed
import SessionWatch.Proofs.Roster.Revision

namespace SessionWatch

/-- The event is about one of the sessions. -/
def Event.Names (ids : Set String) (e : Event) : Prop := ∃ id ∈ ids, e.subjectId = some id

namespace Roster

/-! ### Parties -/

/-- What a party can do about a session. The result of a turn's end is put down on a ticket that
the party took before: the number counts its tickets. -/
inductive Move where
  | register (r : Registration)
  | unregister (id : String)
  | setState (id : String) (s : State)
  | setTodos (id : String) (todos : List String)
  | touch (id : String)
  | mute (id : String)
  | beginStop (id : String)
  | commitStop (ticket : Nat) (s : State)
  deriving DecidableEq

/-- The session that a move names. -/
def Move.id? : Move → Option String
  | register r => some r.id
  | unregister id | setState id _ | setTodos id _ | touch id | mute id | beginStop id => some id
  | commitStop _ _ => none

/-- What a party with these tickets asks; nothing if it has no such ticket. -/
def Move.request? (tickets : List Ticket) : Move → Option Request
  | register r => some (.register r)
  | unregister id => some (.unregister id)
  | setState id s => some (.setState id s)
  | setTodos id todos => some (.setTodos id todos)
  | touch id => some (.touch id)
  | mute id => some (.mute .session id)
  | beginStop id => some (.beginStop id)
  | commitStop n s => tickets[n]?.map (.commitStop · s)

/-- A move of one of the two parties, with its time. -/
structure Scheduled where
  party : Bool
  now : Instant
  move : Move
  deriving DecidableEq

/-- A roster and the tickets that each party has taken. -/
structure Scene where
  roster : Roster := {}
  tickets : Bool → List Ticket := fun _ => []

/-- What comes of a move. -/
structure Told where
  party : Bool
  /-- The answer to the party. -/
  result : Option (Except Problem Answer)
  /-- What observers are told. -/
  event : Option Event

/-- The ticket that an answer is. -/
def Answer.ticket? : Except Problem Answer → Option Ticket
  | .ok (.ticket t) => some t
  | _ => none

namespace Scene

/-- What comes of a move. -/
def told (sc : Scene) (m : Scheduled) : Told :=
  match m.move.request? (sc.tickets m.party) with
  | none => ⟨m.party, none, none⟩
  | some r =>
    let o := sc.roster.ask m.now r
    ⟨m.party, some o.result, o.event⟩

/-- The scene after a move. -/
def after (sc : Scene) (m : Scheduled) : Scene :=
  match m.move.request? (sc.tickets m.party) with
  | none => sc
  | some r =>
    let o := sc.roster.ask m.now r
    { roster := o.roster
      tickets := fun party => sc.tickets party ++
        if party = m.party then (Answer.ticket? o.result).toList else [] }

/-- The scene after some moves, and what came of each of them. -/
def run (sc : Scene) : List Scheduled → Scene × List Told
  | [] => (sc, [])
  | m :: ms =>
    let (sc', ts) := (sc.after m).run ms
    (sc', sc.told m :: ts)

end Scene

/-- An answer without the revision of a ticket, which the parties do not see. -/
def Answer.visible : Answer → Answer
  | .ticket t => .ticket { t with revision := 0 }
  | a => a

/-- What a party sees of what came of its move. -/
def Told.visible (t : Told) : Option (Except Problem Answer) :=
  t.result.map (Except.map Answer.visible)

/-- What observers were told. -/
def events (ts : List Told) : List Event := ts.filterMap Told.event

/-! ### Requests about one session -/

/-- The session that a request is about. -/
def Request.subject? : Request → Option String
  | .register r => some r.id
  | .unregister id | .setState id _ | .beginStop id | .setTodos id _ | .touch id
  | .mute .session id => some id
  | .commitStop t _ => some t.session.id
  | .mute _ _ | .undoMute | .clearLastMuted => none

/-- Observers are told of the session that the request is about. -/
theorem subjectId_of_ask {ro : Roster} (h : ro.Sound) (now : Instant) {r : Request} {id : String}
    (hr : r.subject? = some id) {e : Event} (he : (ro.ask now r).event = some e) :
    e.subjectId = some id := by
  have heading := heading_ask h now r
  rw [he, Option.map_some] at heading
  have subject : ∀ result x, ro.announced r result = some x → x.2 = some id := by
    intro result x hx
    unfold announced at hx
    split at hx
    case h_6 kind id' _ =>
      cases kind <;> cases hx <;> cases hr
      rfl
    case h_7 => cases hr
    all_goals cases hx <;> cases hr <;> rfl
  exact subject _ _ heading.symm

/-- A request does something to the session only that it is about. -/
theorem eq_of_deed? {r : Request} {id id' : String} (hr : r.subject? = some id') {now : Instant}
    {result : Except Problem Answer} {d : Deed} (h : Asked.deed? id ⟨r, now, result⟩ = some d) :
    id' = id := by
  unfold Asked.deed? at h
  dsimp only at h
  split at h
  case h_8 => cases hr
  case h_9 => cases h
  all_goals
    cases hr
    exact (Option.ite_none_right_eq_some.mp h).1

/-- A request does nothing to a session that it is not about. -/
theorem session?_ask_of_other (ro : Roster) (now : Instant) {r : Request} {id id' : String}
    (hr : r.subject? = some id') (other : id' ≠ id) :
    (ro.ask now r).roster.session? id = ro.session? id := by
  have idle : Asked.deed? id ⟨r, now, (ro.ask now r).result⟩ = none :=
    Option.eq_none_iff_forall_ne_some.mpr fun d hd => other (eq_of_deed? hr hd)
  rw [session?_ask, Asked.apply, idle]
  rfl

/-- Tickets for one session, and whether they are still of use is the same. -/
structure Alike (ro ro' : Roster) (t t' : Ticket) : Prop where
  session : t'.session = t.session
  le_last : t.revision ≤ ro.lastRevision
  le_last' : t'.revision ≤ ro'.lastRevision
  current_iff : ∀ {e e'}, ro.find? t.session.id = some e → ro'.find? t.session.id = some e' →
    (e.revision = t.revision ↔ e'.revision = t'.revision)

/-- Requests that differ at most in the revision of a ticket. -/
inductive Likewise (ro ro' : Roster) : Request → Request → Prop where
  | same {r : Request} (no_commit : ∀ t s, r ≠ .commitStop t s) : Likewise ro ro' r r
  | commit {t t' : Ticket} (alike : Alike ro ro' t t') (s : State) :
      Likewise ro ro' (.commitStop t s) (.commitStop t' s)

/-- Rosters with one session under an id have entries of that session, or no entry. -/
theorem entries_of_session?_eq {ro ro' : Roster} {id : String}
    (same : ro'.session? id = ro.session? id) :
    (ro.find? id = none ∧ ro'.find? id = none) ∨
      ∃ s n n', ro.find? id = some ⟨s, n⟩ ∧ ro'.find? id = some ⟨s, n'⟩ := by
  unfold session? at same
  cases hf : ro.find? id with
  | none =>
    rw [hf, Option.map_none, Option.map_eq_none_iff] at same
    exact .inl ⟨rfl, same⟩
  | some e =>
    rw [hf, Option.map_some, Option.map_eq_some_iff] at same
    obtain ⟨e', hf', hs⟩ := same
    exact .inr ⟨e.session, e.revision, e'.revision, rfl, by rw [hf', ← hs]⟩

/-- **What comes of a request about a session depends on that session only.** -/
theorem ask_likewise {ro ro' : Roster} {r r' : Request} (h : Likewise ro ro' r r') {id : String}
    (hr : r.subject? = some id) (same : ro'.session? id = ro.session? id) (now : Instant) :
    (ro'.ask now r').event = (ro.ask now r).event ∧
      (ro'.ask now r').result.map Answer.visible = (ro.ask now r).result.map Answer.visible ∧
      ∀ id', Asked.deed? id' ⟨r', now, (ro'.ask now r').result⟩ =
        Asked.deed? id' ⟨r, now, (ro.ask now r).result⟩ := by
  cases h with
  | same no_commit =>
    cases r with
    | commitStop t s => exact absurd rfl (no_commit t s)
    | undoMute | clearLastMuted => cases hr
    | register r =>
      obtain rfl := Option.some.inj hr
      rcases entries_of_session?_eq same with ⟨hf, hf'⟩ | ⟨s, n, n', hf, hf'⟩ <;>
        simp [ask, Outcome.map, register, hf, hf', Asked.deed?]
    | unregister id' =>
      obtain rfl := Option.some.inj hr
      rcases entries_of_session?_eq same with ⟨hf, hf'⟩ | ⟨s, n, n', hf, hf'⟩ <;>
        simp [ask, Outcome.map, unregister, hf, hf', Asked.deed?]
    | setState id' s =>
      obtain rfl := Option.some.inj hr
      rcases entries_of_session?_eq same with ⟨hf, hf'⟩ | ⟨s, n, n', hf, hf'⟩ <;>
        simp [ask, Outcome.map, setState, hf, hf', Asked.deed?, putState, Entry.withState, refuse]
    | beginStop id' =>
      obtain rfl := Option.some.inj hr
      rcases entries_of_session?_eq same with ⟨hf, hf'⟩ | ⟨s, n, n', hf, hf'⟩ <;>
        simp [ask, beginStop, hf, hf', Asked.deed?, Except.map, Answer.visible]
    | setTodos id' todos =>
      obtain rfl := Option.some.inj hr
      rcases entries_of_session?_eq same with ⟨hf, hf'⟩ | ⟨s, n, n', hf, hf'⟩ <;>
        simp [ask, Outcome.map, setTodos, hf, hf', Asked.deed?, refuse]
    | touch id' =>
      obtain rfl := Option.some.inj hr
      rcases entries_of_session?_eq same with ⟨hf, hf'⟩ | ⟨s, n, n', hf, hf'⟩ <;>
        simp [ask, Outcome.map, touch, hf, hf', Asked.deed?, refuse]
    | mute kind id' =>
      cases kind with
      | session =>
        obtain rfl := Option.some.inj hr
        rcases entries_of_session?_eq same with ⟨hf, hf'⟩ | ⟨s, n, n', hf, hf'⟩ <;>
          simp [ask, Outcome.map, mute, isMuted, setMuted?, hf, hf', Asked.deed?, refuse]
      | pr | repo | author => cases hr
  | @commit t t' alike s =>
    obtain rfl := Option.some.inj hr
    rcases entries_of_session?_eq same with ⟨hf, hf'⟩ | ⟨u, n, n', hf, hf'⟩
    · simp [ask, Outcome.map, commitStop, alike.session, hf, hf', refuse, Asked.deed?, Except.map]
    · have current : n = t.revision ↔ n' = t'.revision := alike.current_iff hf hf'
      by_cases hn : n = t.revision
      · simp [ask, Outcome.map, commitStop, alike.session, hf, hf', hn, current.mp hn, putState,
          Asked.deed?, Entry.withState, Except.map]
      · simp [ask, Outcome.map, commitStop, alike.session, hf, hf', hn, mt current.mpr hn,
          Asked.deed?, Except.map]

/-! ### Tickets -/

/-- A ticket is given for a turn's end only, and has what is there. -/
theorem ticket?_ask {ro : Roster} {now : Instant} {r : Request} {t : Ticket}
    (h : Answer.ticket? (ro.ask now r).result = some t) :
    ∃ id, r = .beginStop id ∧ (ro.ask now r).roster = ro ∧
      ro.find? id = some ⟨t.session, t.revision⟩ := by
  cases r with
  | beginStop id =>
    refine ⟨id, rfl, rfl, ?_⟩
    simp only [ask, beginStop] at h
    cases hf : ro.find? id with
    | none =>
      rw [hf] at h
      cases h
    | some e =>
      rw [hf] at h
      cases h
      rfl
  | clearLastMuted => cases h
  | _ =>
    simp only [ask, Outcome.map] at h
    generalize Outcome.result _ = result at h
    cases result <;> cases h

/-- What is visible of an answer tells the session of a ticket. -/
theorem ticket?_of_visible_eq {a a' : Except Problem Answer}
    (h : a'.map Answer.visible = a.map Answer.visible) :
    (Answer.ticket? a').map (·.session) = (Answer.ticket? a).map (·.session) := by
  have session (a : Except Problem Answer) : (Answer.ticket? a).map (·.session) =
      (Answer.ticket? (a.map Answer.visible)).map (·.session) := by
    rcases a with _ | _ | _ | _ | _ | _ | _ <;> rfl
  rw [session, h, ← session]

/-- What a request does to either roster, tickets stay alike if the same is told of both. -/
theorem Alike.effect {ro ro' ro₁ ro₁' : Roster} {t t' : Ticket} (h : Alike ro ro' t t')
    (sound : ro.Sound) (sound' : ro'.Sound) {now : Instant} {ev ev' : Option Event}
    (he : Effect ro now ro₁ ev) (he' : Effect ro' now ro₁' ev')
    (stamps : Stamps t.session.id ev ↔ Stamps t.session.id ev') : Alike ro₁ ro₁' t t' where
  session := h.session
  le_last := Nat.le_trans h.le_last (lastRevision_mono he)
  le_last' := Nat.le_trans h.le_last' (lastRevision_mono he')
  current_iff {e e'} found found' := by
    by_cases hs : Stamps t.session.id ev
    · -- both have a revision that was given out just now
      have hlt := revision_of_stamps sound he hs found
      have hlt' := revision_of_stamps sound' he' (stamps.mp hs) found'
      have hle := h.le_last
      have hle' := h.le_last'
      exact iff_of_false (by omega) (by omega)
    · obtain ⟨e₀, found₀, same⟩ := revision_of_not_stamps sound he hs found
      obtain ⟨e₀', found₀', same'⟩ := revision_of_not_stamps sound' he' (mt stamps.mpr hs) found'
      rw [← same, ← same']
      exact h.current_iff found₀ found₀'

/-- Tickets that are given for one session are alike. -/
theorem alike_of_ticket? {ro ro' : Roster} (sound : ro.Sound) (sound' : ro'.Sound) {now : Instant}
    {r r' : Request} {t t' : Ticket} (ht : Answer.ticket? (ro.ask now r).result = some t)
    (ht' : Answer.ticket? (ro'.ask now r').result = some t') (session : t'.session = t.session) :
    Alike (ro.ask now r).roster (ro'.ask now r').roster t t' := by
  obtain ⟨id, -, same, found⟩ := ticket?_ask ht
  obtain ⟨id', -, same', found'⟩ := ticket?_ask ht'
  have hid : t.session.id = id := sound.id_eq found
  have hid' : t.session.id = id' := session ▸ sound'.id_eq found'
  rw [same, same']
  subst hid hid'
  refine ⟨session, sound.revision_le found, sound'.revision_le found', fun he he' => ?_⟩
  rw [found] at he
  rw [found'] at he'
  cases he
  cases he'
  exact iff_of_true rfl rfl

theorem getElem?_of_forall₂ {α β : Type} {R : α → β → Prop} {as : List α} {bs : List β}
    (h : List.Forall₂ R as bs) : ∀ n : Nat, (as[n]? = none ∧ bs[n]? = none) ∨
      ∃ a b, as[n]? = some a ∧ bs[n]? = some b ∧ R a b := by
  induction h with
  | nil => exact fun _ => .inl ⟨rfl, rfl⟩
  | @cons a b as bs hab _ ih =>
    intro n
    cases n with
    | zero => exact .inr ⟨a, b, rfl, rfl, hab⟩
    | succ n => exact ih n

/-- With tickets that are alike a party asks likewise. -/
theorem request?_likewise {ro ro' : Roster} {ts ts' : List Ticket}
    (h : List.Forall₂ (Alike ro ro') ts ts') (m : Move) :
    (m.request? ts = none ∧ m.request? ts' = none) ∨
      ∃ r r', m.request? ts = some r ∧ m.request? ts' = some r' ∧ Likewise ro ro' r r' := by
  cases m with
  | commitStop n s =>
    rcases getElem?_of_forall₂ h n with ⟨ht, ht'⟩ | ⟨t, t', ht, ht', alike⟩
    · exact .inl ⟨by rw [Move.request?, ht]; rfl, by rw [Move.request?, ht']; rfl⟩
    · exact .inr ⟨_, _, by rw [Move.request?, ht]; rfl, by rw [Move.request?, ht']; rfl,
        .commit alike s⟩
  | _ => exact .inr ⟨_, _, rfl, rfl, .same (by simp)⟩

/-- What is told of one session is not told of another. -/
theorem eq_of_stamps {id id' : String} {ev : Option Event}
    (h : ∀ e ∈ ev, e.subjectId = some id') (hs : Stamps id ev) : id' = id := by
  cases ev with
  | none => rcases hs with hs | hs <;> cases hs
  | some e =>
    have subject : e.subjectId = some id := by
      rcases hs with hs | hs <;> exact congrArg Prod.snd (Option.some.inj hs)
    exact Option.some.inj ((h e rfl).symm.trans subject)

/-! ### Scenes -/

namespace Scene

/-- The roster is sound, and each party has tickets for its own sessions. -/
structure Owned (ids : Bool → Set String) (sc : Scene) : Prop where
  sound : sc.roster.Sound
  own : ∀ party, ∀ t ∈ sc.tickets party, t.session.id ∈ ids party

variable {ids : Bool → Set String} {sc sc' : Scene} {m : Scheduled}

theorem owned_empty : Owned ids {} := ⟨sound_empty, fun _ _ h => absurd h List.not_mem_nil⟩

/-- A party asks about its own sessions. -/
theorem Owned.subject (h : sc.Owned ids) (hm : ∀ id ∈ m.move.id?, id ∈ ids m.party) {r : Request}
    (hr : m.move.request? (sc.tickets m.party) = some r) :
    ∃ id ∈ ids m.party, r.subject? = some id := by
  obtain ⟨party, now, move⟩ := m
  cases move with
  | commitStop n s =>
    obtain ⟨t, ht, rfl⟩ := Option.map_eq_some_iff.mp hr
    exact ⟨_, h.own party t (List.mem_of_getElem? ht), rfl⟩
  | _ =>
    cases hr
    exact ⟨_, hm _ rfl, rfl⟩

theorem after_of_none (hr : m.move.request? (sc.tickets m.party) = none) : sc.after m = sc := by
  rw [after, hr]

theorem after_of_some {r : Request} (hr : m.move.request? (sc.tickets m.party) = some r) :
    sc.after m = {
      roster := (sc.roster.ask m.now r).roster
      tickets := fun party => sc.tickets party ++ if party = m.party then
        (Answer.ticket? (sc.roster.ask m.now r).result).toList else [] } := by
  rw [after, hr]

theorem Owned.after (h : sc.Owned ids) (hm : ∀ id ∈ m.move.id?, id ∈ ids m.party) :
    (sc.after m).Owned ids := by
  cases hr : m.move.request? (sc.tickets m.party) with
  | none => rwa [after_of_none hr]
  | some r =>
    obtain ⟨id, hid, hsub⟩ := h.subject hm hr
    rw [after_of_some hr]
    refine ⟨h.sound.effect (ask_effect sc.roster m.now r), fun party t ht => ?_⟩
    rcases List.mem_append.mp ht with old | new
    · exact h.own party t old
    · split at new
      · subst party
        obtain ⟨id', rfl, -, found⟩ := ticket?_ask (Option.mem_toList.mp new)
        cases hsub
        have := h.sound.id_eq found
        exact this ▸ hid
      · exact absurd new List.not_mem_nil

/-- The scenes are the same to a party. -/
structure Like (ids : Set String) (party : Bool) (sc sc' : Scene) : Prop where
  session : ∀ id ∈ ids, sc'.roster.session? id = sc.roster.session? id
  tickets : List.Forall₂ (Alike sc.roster sc'.roster) (sc.tickets party) (sc'.tickets party)

/-- A move of the party itself leads to scenes that are the same to it, and the same comes of it. -/
theorem Like.own (h : Like (ids m.party) m.party sc sc') (owned : sc.Owned ids)
    (owned' : sc'.Owned ids) (hm : ∀ id ∈ m.move.id?, id ∈ ids m.party) :
    Like (ids m.party) m.party (sc.after m) (sc'.after m) ∧
      (sc'.told m).visible = (sc.told m).visible ∧ (sc'.told m).event = (sc.told m).event := by
  rcases request?_likewise h.tickets m.move with ⟨hr, hr'⟩ | ⟨r, r', hr, hr', likewise⟩
  · rw [after_of_none hr, after_of_none hr', told, told, hr, hr']
    exact ⟨h, rfl, rfl⟩
  · obtain ⟨id, hid, hsub⟩ := owned.subject hm hr
    obtain ⟨event, visible, deed⟩ := ask_likewise likewise hsub (h.session id hid) m.now
    have effect := ask_effect sc.roster m.now r
    have effect' := ask_effect sc'.roster m.now r'
    have alike {t t' : Ticket} (ht : Alike sc.roster sc'.roster t t') :=
      ht.effect owned.sound owned'.sound effect effect' (by rw [event])
    rw [after_of_some hr, after_of_some hr', told, told, hr, hr']
    refine ⟨⟨fun id' hid' => ?_, ?_⟩, congrArg some visible, event⟩
    · dsimp only
      rw [session?_ask, session?_ask, Asked.apply, Asked.apply, deed, h.session id' hid']
    · refine List.rel_append (h.tickets.imp fun t t' ht => alike ht) ?_
      rw [if_pos rfl, if_pos rfl]
      have session := ticket?_of_visible_eq visible
      cases ht : Answer.ticket? (sc.roster.ask m.now r).result with
      | none =>
        rw [ht, Option.map_none, Option.map_eq_none_iff] at session
        rw [session]
        exact .nil
      | some t =>
        rw [ht, Option.map_some, Option.map_eq_some_iff] at session
        obtain ⟨t', ht', hs⟩ := session
        rw [ht']
        exact .cons (alike_of_ticket? owned.sound owned'.sound ht ht' hs) .nil

/-- What is told of a move is about a session of the party. -/
theorem Owned.names (h : sc.Owned ids) (hm : ∀ id ∈ m.move.id?, id ∈ ids m.party) :
    ∀ e ∈ (sc.told m).event, e.Names (ids m.party) := by
  intro e he
  unfold told at he
  cases hr : m.move.request? (sc.tickets m.party) with
  | none =>
    rw [hr] at he
    exact absurd he (Option.not_mem_none e)
  | some r =>
    obtain ⟨id, hid, hsub⟩ := h.subject hm hr
    rw [hr] at he
    exact ⟨id, hid, subjectId_of_ask h.sound m.now hsub he⟩

/-- A move of the other party makes no difference to a party. -/
theorem Like.other {party : Bool} (h : Like (ids party) party sc sc') (owned : sc.Owned ids)
    (owned' : sc'.Owned ids) (apart : ∀ id ∈ ids m.party, id ∉ ids party)
    (hm : ∀ id ∈ m.move.id?, id ∈ ids m.party) (hp : m.party ≠ party) :
    Like (ids party) party (sc.after m) sc' := by
  cases hr : m.move.request? (sc.tickets m.party) with
  | none => rwa [after_of_none hr]
  | some r =>
    obtain ⟨id', hid', hsub⟩ := owned.subject hm hr
    have other {id : String} (hid : id ∈ ids party) : id' ≠ id :=
      fun he => apart id' hid' (he ▸ hid)
    have own := (List.forall₂_and_left _ _).mpr ⟨owned.own party, h.tickets⟩
    rw [after_of_some hr]
    refine ⟨fun id hid => ?_, ?_⟩
    · exact (h.session id hid).trans (session?_ask_of_other sc.roster m.now hsub (other hid)).symm
    · dsimp only
      rw [if_neg (Ne.symm hp), List.append_nil]
      refine own.imp fun t t' ht => ht.2.effect owned.sound owned'.sound
        (ask_effect sc.roster m.now r) (.quiet rfl (Nat.le_refl _)) (iff_of_false ?_ ?_)
      · have told {e : Event} (he : (sc.roster.ask m.now r).event = some e) :
            e.subjectId = some id' := subjectId_of_ask owned.sound m.now hsub he
        exact fun hs => other ht.1 (eq_of_stamps (fun e he => told he) hs)
      · rintro (hs | hs) <;> cases hs

/-! ### Runs -/

theorem party_told (sc : Scene) (m : Scheduled) : (sc.told m).party = m.party := by
  unfold told
  split <;> rfl

theorem events_cons (t : Told) (ts : List Told) :
    events (t :: ts) = t.event.toList ++ events ts := by
  rw [events, List.filterMap_cons]
  cases t.event <;> rfl

open Classical in
/-- A party finds the same all along a run as without the moves of the other party. -/
theorem Like.run {party : Bool} (apart : ∀ id ∈ ids !party, id ∉ ids party) :
    ∀ (ms : List Scheduled) {sc sc' : Scene}, sc.Owned ids → sc'.Owned ids →
      Like (ids party) party sc sc' → (∀ m ∈ ms, ∀ id ∈ m.move.id?, id ∈ ids m.party) →
      let all := sc.run ms
      let alone := sc'.run (ms.filter fun m => m.party = party)
      Like (ids party) party all.1 alone.1 ∧
        (all.2.filter fun t => t.party = party).map Told.visible = alone.2.map Told.visible ∧
        (events all.2).filter (fun e => e.Names (ids party)) = events alone.2
  | [], sc, sc', _, _, h, _ => ⟨h, rfl, rfl⟩
  | m :: ms, sc, sc', owned, owned', h, hms => by
    obtain ⟨hm, hms⟩ := List.forall_mem_cons.mp hms
    have names := owned.names hm
    by_cases hp : m.party = party
    · subst hp
      obtain ⟨like, visible, event⟩ := h.own owned owned' hm
      obtain ⟨hlike, hvisible, hevents⟩ :=
        Like.run apart ms (owned.after hm) (owned'.after hm) like hms
      rw [List.filter_cons_of_pos (by simp)]
      refine ⟨hlike, ?_, ?_⟩
      · show ((sc.told m :: _).filter _).map _ = _ :: _
        rw [List.filter_cons_of_pos (by simp [party_told]), List.map_cons, hvisible, visible]
      · show (events (sc.told m :: _)).filter _ = events (sc'.told m :: _)
        rw [events_cons, events_cons, List.filter_append, hevents, event]
        congr 1
        rw [List.filter_eq_self]
        intro e he
        exact decide_eq_true (names e (Option.mem_toList.mp he))
    · have hother : m.party = !party := Bool.eq_not.mpr hp
      have hidden : ∀ e ∈ (sc.told m).event, ¬ e.Names (ids party) := by
        rintro e he ⟨id, hid, heq⟩
        obtain ⟨id', hid', heq'⟩ := names e he
        obtain rfl := Option.some.inj (heq.symm.trans heq')
        exact apart id (hother ▸ hid') hid
      have like := h.other owned owned' (hother ▸ apart) hm hp
      obtain ⟨hlike, hvisible, hevents⟩ := Like.run apart ms (owned.after hm) owned' like hms
      rw [List.filter_cons_of_neg (by simpa using hp)]
      refine ⟨hlike, ?_, ?_⟩
      · show ((sc.told m :: _).filter _).map _ = _
        rw [List.filter_cons_of_neg (by simpa [party_told] using hp)]
        exact hvisible
      · show (events (sc.told m :: _)).filter _ = _
        have none_named : (sc.told m).event.toList.filter (fun e => e.Names (ids party)) = [] := by
          rw [List.filter_eq_nil_iff]
          intro e he hn
          exact hidden e (Option.mem_toList.mp he) (of_decide_eq_true hn)
        rw [events_cons, List.filter_append, hevents, none_named, List.nil_append]

/-- At the beginning there is nothing, so the scene is the same to everyone. -/
theorem like_empty (ids : Set String) (party : Bool) : Like ids party {} {} :=
  ⟨fun _ _ => rfl, .nil⟩

theorem Owned.run : ∀ (ms : List Scheduled) {sc : Scene}, sc.Owned ids →
    (∀ m ∈ ms, ∀ id ∈ m.move.id?, id ∈ ids m.party) → (sc.run ms).1.Owned ids
  | [], _, h, _ => h
  | m :: ms, _, h, hms => by
    obtain ⟨hm, hms⟩ := List.forall_mem_cons.mp hms
    exact Owned.run ms (h.after hm) hms

open Classical in
/-- **Sessions do not interfere.** In whatever order two parties with different sessions take
their turns at an empty roster, each of them is answered as if it were alone, its sessions end as
if it were alone, and the same is told of them in the same order. -/
theorem alone_eq {ids : Bool → Set String} (apart : ∀ id ∈ ids false, id ∉ ids true)
    (ms : List Scheduled) (own : ∀ m ∈ ms, ∀ id ∈ m.move.id?, id ∈ ids m.party) (party : Bool) :
    let all := Scene.run {} ms
    let alone := Scene.run {} (ms.filter fun m => m.party = party)
    (all.2.filter fun t => t.party = party).map Told.visible = alone.2.map Told.visible ∧
      (∀ id ∈ ids party, (all.1.roster.query none).filter (fun s => s.id = id) =
        (alone.1.roster.query none).filter fun s => s.id = id) ∧
      (events all.2).filter (fun e => e.Names (ids party)) = events alone.2 := by
  intro all alone
  have apart' : ∀ id ∈ ids !party, id ∉ ids party := by
    cases party with
    | false => exact fun id hid hid' => apart id hid' hid
    | true => exact apart
  obtain ⟨like, visible, told⟩ :=
    Like.run apart' ms owned_empty owned_empty (like_empty (ids party) party) own
  refine ⟨visible, fun id hid => ?_, told⟩
  have sound : all.1.roster.Sound := (owned_empty.run ms own).sound
  have sound' : alone.1.roster.Sound :=
    (owned_empty.run _ fun m hm => own m (List.mem_of_mem_filter hm)).sound
  show all.1.roster.sessions.filter _ = alone.1.roster.sessions.filter _
  rw [sound.filter_sessions, sound'.filter_sessions, like.session id hid]

/-- Between the beginning and the result of one turn's end another session is registered and set,
and has the result of its own end come too late. -/
theorem alone_eq_between :
    let noon : Instant := ⟨⟨2024, 3, 1⟩, 43200, 0⟩
    let r (id : String) : Registration := ⟨id, "", "/src", .codex⟩
    let ids : Bool → Set String := fun party => if party then {"one"} else {"two"}
    let one (m : Move) : Scheduled := ⟨true, noon, m⟩
    let two (m : Move) : Scheduled := ⟨false, noon, m⟩
    let ms : List Scheduled := [one (.register (r "one")), two (.register (r "two")),
      one (.beginStop "one"), two (.beginStop "two"), two (.setState "two" .idle),
      one (.commitStop 0 .idle), two (.commitStop 0 .waitingInput), one (.mute "one")]
    let all := Scene.run {} ms
    let alone := Scene.run {} (ms.filter fun m => m.party = true)
    let answers : List (Option (Except Problem Answer)) := [
      some (.ok (.session (.fresh (r "one") noon))),
      some (.ok (.ticket ⟨.fresh (r "one") noon, 0⟩)),
      some (.ok (.stop (.committed .idle))), some (.ok (.flag true))]
    (∀ id ∈ ids false, id ∉ ids true) ∧ (∀ m ∈ ms, ∀ id ∈ m.move.id?, id ∈ ids m.party) ∧
      (all.2.filter fun t => t.party = true).map Told.visible = answers ∧
      (all.1.roster.query none).filter (fun s => s.id = "one") =
        (alone.1.roster.query none).filter (fun s => s.id = "one") ∧
      (all.1.roster.find? "one").map (·.revision) = some 4 ∧
      (alone.1.roster.find? "one").map (·.revision) = some 2 := by
  intro noon r ids one two ms all alone answers
  have apart : ∀ id ∈ ids false, id ∉ ids true := by simp [ids]
  have own : ∀ m ∈ ms, ∀ id ∈ m.move.id?, id ∈ ids m.party := by
    simp [ms, ids, one, two, r, Move.id?]
  obtain ⟨visible, final, -⟩ := alone_eq apart ms own true
  exact ⟨apart, own, visible.trans rfl, final "one" (by simp [ids]), rfl, rfl⟩

end Scene

end Roster

end SessionWatch
