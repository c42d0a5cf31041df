/-
# What a revision stands for

A revision is given out once, to one session, with the state that is set then.
So no two sessions have one revision, and while a session has that of a
ticket, it is the session of the ticket, in the state that it had when the
ticket was taken. Both are kept by every effect of a request: what is stamped
gets a revision ahead of all others, and what is not keeps revision and state.

Key definitions: `Roster.Stamped`, `Roster.Backs`.
Key theorems: `Roster.Stamped.effect`, `Roster.Stamped.backs`,
`Roster.Backs.effect`, `Roster.beginStop_of_ticket`.
-/
import SessionWatch.Proofs.Roster.Revision

namespace SessionWatch.Roster

/-- Each session has a revision of its own; the first one is one. -/
structure Stamped (ro : Roster) : Prop where
  one_le : ∀ {id e}, ro.find? id = some e → 1 ≤ e.revision
  inj : ∀ {id id' e e'}, ro.find? id = some e → ro.find? id' = some e' →
    e.revision = e'.revision → id = id'

/-- The revision of the ticket was given out, and only the session of the ticket has it, in the
state that the ticket has. -/
structure Backs (ro : Roster) (t : Ticket) : Prop where
  le_last : t.revision ≤ ro.lastRevision
  same : ∀ {id e}, ro.find? id = some e → e.revision = t.revision →
    id = t.session.id ∧ e.session.state = t.session.state

theorem stamped_empty : ({} : Roster).Stamped :=
  ⟨fun found => by simp [find?] at found, fun found => by simp [find?] at found⟩

/-- An event stamps one session at most. -/
theorem stamps_inj {id id' : String} {ev : Option Event} (h : Stamps id ev) (h' : Stamps id' ev) :
    id = id' := by
  rcases h with h | h <;> rcases h' with h' | h' <;> rw [h] at h' <;> cases h' <;> rfl

theorem Stamped.nodup_revisions {ro : Roster} (hs : ro.Stamped) (h : ro.Sound) :
    (ro.entries.map (·.2.revision)).Nodup := by
  refine List.Nodup.map_on (fun p hp q hq same => ?_) (.of_map _ h.nodup)
  have found_p := h.find?_iff.mpr hp
  have found_q := h.find?_iff.mpr hq
  have key : p.1 = q.1 := hs.inj found_p found_q same
  rw [key, found_q] at found_p
  exact Prod.ext key (Option.some.inj found_p).symm

section effect

variable {ro ro' : Roster} {now : Instant} {ev : Option Event} {t : Ticket}

theorem Stamped.effect (hs : ro.Stamped) (h : ro.Sound) (he : Effect ro now ro' ev) :
    ro'.Stamped := by
  -- a session that is not stamped has an old revision, and one that is has a new one
  have old {id : String} {e : Entry} (found : ro'.find? id = some e) (kept : ¬ Stamps id ev) :
      e.revision ≤ ro.lastRevision := by
    obtain ⟨e₀, found₀, same⟩ := revision_of_not_stamps h he kept found
    exact same ▸ h.revision_le found₀
  constructor
  · intro id e found
    by_cases stamped : Stamps id ev
    · have new := revision_of_stamps h he stamped found
      omega
    · obtain ⟨e₀, found₀, same⟩ := revision_of_not_stamps h he stamped found
      exact same ▸ hs.one_le found₀
  · intro id id' e e' found found' same
    by_cases stamped : Stamps id ev <;> by_cases stamped' : Stamps id' ev
    · exact stamps_inj stamped stamped'
    · have new := revision_of_stamps h he stamped found
      have le := old found' stamped'
      omega
    · have new := revision_of_stamps h he stamped' found'
      have le := old found stamped
      omega
    · obtain ⟨e₀, found₀, same₀⟩ := revision_of_not_stamps h he stamped found
      obtain ⟨e₀', found₀', same₀'⟩ := revision_of_not_stamps h he stamped' found'
      exact hs.inj found₀ found₀' (by rw [same₀, same₀', same])

/-- A ticket is backed by the roster that it is taken of. -/
theorem Stamped.backs (hs : ro.Stamped) (h : ro.Sound) {id : String}
    (taken : ro.beginStop id = .ok t) : ro.Backs t := by
  obtain ⟨e, found, rfl⟩ := beginStop_eq_ok taken
  refine ⟨h.revision_le found, fun {id' e'} found' same => ?_⟩
  obtain rfl := hs.inj found' found same
  obtain rfl := Option.some.inj (found'.symm.trans found)
  exact ⟨(h.id_eq found).symm, rfl⟩

/-- **A ticket stays backed.** -/
theorem Backs.effect (hb : ro.Backs t) (h : ro.Sound) (he : Effect ro now ro' ev) :
    ro'.Backs t := by
  refine ⟨Nat.le_trans hb.le_last (lastRevision_mono he), fun {id e} found same => ?_⟩
  by_cases stamped : Stamps id ev
  · have new := revision_of_stamps h he stamped found
    have le := hb.le_last
    omega
  · obtain ⟨e₀, found₀, revision, state⟩ := kept_of_not_stamps h he stamped found
    obtain ⟨hid, hstate⟩ := hb.same found₀ (revision.trans same)
    exact ⟨hid, state.symm.trans hstate⟩

end effect

/-! ### Taking a ticket -/

/-- A ticket is an answer to the beginning of a turn's end only. -/
theorem beginStop_of_ticket {ro : Roster} {now : Instant} {r : Request} {t : Ticket}
    (answer : (ro.ask now r).result = .ok (.ticket t)) :
    ∃ id, r = .beginStop id ∧ ro.beginStop id = .ok t := by
  -- no other answer is a ticket
  have other {α : Type} {f : α → Answer} {o : Outcome α}
      (h : (o.map f).result = .ok (.ticket t)) (apart : ∀ a, f a ≠ .ticket t) : False := by
    obtain ⟨ro', event, result⟩ := o
    cases result with
    | error p => cases h
    | ok a => exact apart a (Except.ok.inj h)
  cases r with
  | register | unregister | setState | commitStop | setTodos | touch | mute | undoMute =>
    exact (other answer fun _ => nofun).elim
  | clearLastMuted => cases answer
  | beginStop id =>
    refine ⟨id, rfl, ?_⟩
    have mapped : (ro.beginStop id).map Answer.ticket = .ok (.ticket t) := answer
    cases taken : ro.beginStop id with
    | error p =>
      rw [taken] at mapped
      cases mapped
    | ok t' =>
      rw [taken] at mapped
      rw [Answer.ticket.inj (Except.ok.inj mapped)]

end SessionWatch.Roster
