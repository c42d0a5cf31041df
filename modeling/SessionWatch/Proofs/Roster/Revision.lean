/-
# Revisions

Revisions are given out in ascending order, and the state of a session is never
set without taking a new one. So a revision that was given out tells whether
the state of a session was set since: the session has a later revision if it
was (`Past`), and still has this one if it was not (`Current`). Every effect
of a request keeps both, but for those that set the state, which lead from the
one to the other.

A ticket has the revision of its session, and what becomes of a result that is
put down on it is decided by the revision that the session has by then.

Key definitions: `Roster.Current`, `Roster.Past`, `Roster.Stamps`.
Key theorems: `Roster.Current.effect`, `Roster.Past.effect`,
`Roster.past_of_stamps`, `Roster.ask_commitStop_current`,
`Roster.ask_commitStop_past`.
-/
import SessionWatch.Proofs.Roster.Announcement

namespace SessionWatch.Roster

/-- The session, if it is there, has this revision, which was given out. -/
structure Current (ro : Roster) (id : String) (revision : Nat) : Prop where
  le_last : revision ≤ ro.lastRevision
  eq : ∀ {e}, ro.find? id = some e → e.revision = revision

/-- The session, if it is there, has a later revision than this one, which was given out. -/
structure Past (ro : Roster) (id : String) (revision : Nat) : Prop where
  le_last : revision ≤ ro.lastRevision
  lt : ∀ {e}, ro.find? id = some e → revision < e.revision

/-- The event says that a session was added or that its state changed. -/
def Stamps (id : String) (ev : Option Event) : Prop :=
  ev.map Event.heading = some (.sessionAdded, some id) ∨
    ev.map Event.heading = some (.stateChanged, some id)

section effect

variable {ro ro' : Roster} {now : Instant} {ev : Option Event} {id : String} {revision : Nat}

theorem lastRevision_mono (he : Effect ro now ro' ev) : ro.lastRevision ≤ ro'.lastRevision := by
  cases he with
  | quiet entries revision => exact revision
  | registered | stateSet => exact Nat.le_succ _
  | unregistered | todosSet | touched => exact Nat.le_refl _
  | sessionMuted _ _ _ revision | otherMuted _ _ _ _ revision => exact Nat.le_of_eq revision.symm

theorem Sound.current (h : ro.Sound) {e : Entry} (found : ro.find? id = some e) :
    ro.Current id e.revision where
  le_last := h.revision_le found
  eq found' := by rw [Option.some.inj (found'.symm.trans found)]

/-- A session that is added or changes its state gets a revision after all those given out. -/
theorem revision_of_stamps (h : ro.Sound) (he : Effect ro now ro' ev) (hs : Stamps id ev)
    {e : Entry} (found : ro'.find? id = some e) : ro.lastRevision < e.revision := by
  cases he with
  | registered r =>
    have hid : (Session.fresh r now).id = id := by
      simpa [Stamps, Event.heading, Event.kind, Event.subjectId] using hs
    change r.id = id at hid
    rw [find?_put, if_pos hid.symm] at found
    rw [← Option.some.inj found]
    exact Nat.lt_succ_self _
  | @stateSet id' e' found' s =>
    have hid : e'.session.id = id := by
      simpa [Stamps, Event.heading, Event.kind, Event.subjectId] using hs
    rw [h.id_eq found'] at hid
    rw [find?_put, if_pos hid.symm] at found
    rw [← Option.some.inj found]
    exact Nat.lt_succ_self _
  | quiet | unregistered | todosSet | touched | sessionMuted | otherMuted =>
    simp [Stamps, Event.heading, Event.kind] at hs

/-- Any other session keeps its revision, and its state with it. -/
theorem kept_of_not_stamps (h : ro.Sound) (he : Effect ro now ro' ev) (hs : ¬ Stamps id ev)
    {e : Entry} (found : ro'.find? id = some e) :
    ∃ e₀, ro.find? id = some e₀ ∧ e₀.revision = e.revision ∧
      e₀.session.state = e.session.state := by
  -- an entry that is put in place of another one for its session, with the same revision and state
  have replaced {id' : String} {e₀ e₁ : Entry} (found₀ : ro.find? id' = some e₀)
      (found₁ : (ro.put id' e₁).find? id = some e) (same : e₀.revision = e₁.revision)
      (state : e₀.session.state = e₁.session.state) :
      ∃ e₀, ro.find? id = some e₀ ∧ e₀.revision = e.revision ∧
        e₀.session.state = e.session.state := by
    rw [find?_put] at found₁
    split at found₁
    · rename_i hid
      obtain rfl := Option.some.inj found₁
      exact ⟨e₀, hid ▸ found₀, same, state⟩
    · exact ⟨e, found₁, rfl, rfl⟩
  cases he with
  | quiet entries _ | otherMuted _ _ _ entries _ =>
    exact ⟨e, find?_congr entries id ▸ found, rfl, rfl⟩
  | registered r =>
    have hid : id ≠ r.id := fun hid => hs (.inl (by rw [hid]; rfl))
    rw [find?_put, if_neg hid] at found
    exact ⟨e, found, rfl, rfl⟩
  | unregistered =>
    rw [find?_others] at found
    split at found
    · cases found
    · exact ⟨e, found, rfl, rfl⟩
  | @stateSet id' e' found' s =>
    have hid : id ≠ id' := fun hid => hs (.inr (by rw [hid, ← h.id_eq found']; rfl))
    rw [find?_put, if_neg hid] at found
    exact ⟨e, found, rfl, rfl⟩
  | todosSet found₀ todos => exact replaced found₀ found rfl rfl
  | touched found₀ => exact replaced found₀ found rfl rfl
  | sessionMuted found₀ flag entries _ =>
    rw [find?_congr entries] at found
    exact replaced found₀ found rfl rfl

theorem revision_of_not_stamps (h : ro.Sound) (he : Effect ro now ro' ev) (hs : ¬ Stamps id ev)
    {e : Entry} (found : ro'.find? id = some e) :
    ∃ e₀, ro.find? id = some e₀ ∧ e₀.revision = e.revision := by
  obtain ⟨e₀, found₀, same, -⟩ := kept_of_not_stamps h he hs found
  exact ⟨e₀, found₀, same⟩

theorem Current.effect (hc : ro.Current id revision) (h : ro.Sound) (he : Effect ro now ro' ev)
    (hs : ¬ Stamps id ev) : ro'.Current id revision where
  le_last := Nat.le_trans hc.le_last (lastRevision_mono he)
  eq found := by
    obtain ⟨e₀, found₀, same⟩ := revision_of_not_stamps h he hs found
    rw [← same, hc.eq found₀]

/-- Whatever the session had, it is past any revision given out once its state is set. -/
theorem past_of_stamps (hle : revision ≤ ro.lastRevision) (h : ro.Sound)
    (he : Effect ro now ro' ev) (hs : Stamps id ev) : ro'.Past id revision where
  le_last := Nat.le_trans hle (lastRevision_mono he)
  lt found := Nat.lt_of_le_of_lt hle (revision_of_stamps h he hs found)

theorem Past.effect (hp : ro.Past id revision) (h : ro.Sound) (he : Effect ro now ro' ev) :
    ro'.Past id revision := by
  by_cases hs : Stamps id ev
  · exact past_of_stamps hp.le_last h he hs
  · refine ⟨Nat.le_trans hp.le_last (lastRevision_mono he), fun found => ?_⟩
    obtain ⟨e₀, found₀, same⟩ := revision_of_not_stamps h he hs found
    rw [← same]
    exact hp.lt found₀

end effect

/-! ### Tickets -/

section ticket

variable {ro : Roster} {id : String} {t : Ticket} {e : Entry}

/-- A ticket has the session and its revision as they were. -/
theorem beginStop_eq_ok (h : ro.beginStop id = .ok t) :
    ∃ e, ro.find? id = some e ∧ t = ⟨e.session, e.revision⟩ := by
  rw [beginStop] at h
  split at h
  · cases h
  · rename_i e found
    exact ⟨e, found, (Except.ok.inj h).symm⟩

theorem ask_commitStop_unknown (h : ro.find? t.session.id = none) (s : State) (now : Instant) :
    ro.ask now (.commitStop t s) =
      ⟨ro.nextRevision, none, .error (.unknownSession t.session.id)⟩ := by
  simp only [ask, commitStop, find?_nextRevision, h]
  rfl

theorem ask_commitStop_current (h : ro.find? t.session.id = some e) (hr : e.revision = t.revision)
    (s : State) (now : Instant) :
    ro.ask now (.commitStop t s) =
      ⟨ro.nextRevision.put t.session.id (e.withState s (ro.lastRevision + 1) now),
        some (.stateChanged e.session.id e.session.state s
          (e.withState s (ro.lastRevision + 1) now).session), .ok (.stop (.committed s))⟩ := by
  simp only [ask, commitStop, find?_nextRevision, h, if_pos hr]
  rfl

theorem ask_commitStop_past (h : ro.find? t.session.id = some e) (hr : e.revision ≠ t.revision)
    (s : State) (now : Instant) :
    ro.ask now (.commitStop t s) =
      ⟨ro.nextRevision, none, .ok (.stop (.superseded e.session.state))⟩ := by
  simp only [ask, commitStop, find?_nextRevision, h, if_neg hr]
  rfl

end ticket

end SessionWatch.Roster
