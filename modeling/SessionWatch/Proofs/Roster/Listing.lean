/-
# The order of a listing

Sessions are listed by their places: the instant of the registration, and the
id among those registered at the same instant. No two sessions of a sound
roster have one place, so the listing is the only arrangement of the sessions
in which each precedes the next, whatever the order in which the roster keeps
them.

A request that neither registers a session nor takes one off leaves the place
of every session as it is, and so the order of the listing. A session that is
taken off is left out of it, and a new one is put between those that precede
it and those that it precedes.

Key definitions: `Session.place`, `Session.Precedes`, `Roster.ids`.
Key theorems: `Roster.Sound.sessions_pairwise`, `Roster.Sound.sessions_unique`,
`Roster.Sound.sessions_unregister`, `Roster.Sound.sessions_register`,
`Roster.Sound.ids_effect`.
-/
import Mathlib.Data.String.Basic
import SessionWatch.Proofs.Roster.Deed
import SessionWatch.Proofs.Time.Order

namespace SessionWatch

/-! ### Places -/

namespace Session

/-- What a session is listed by. -/
def place (s : Session) : (ℤ ×ₗ ℕ ×ₗ ℕ ×ₗ ℕ ×ₗ ℕ) ×ₗ String := toLex (s.registeredAt.word, s.id)

/-- The session was registered before the other one, or at the same time and has the lower id. -/
def Precedes (s t : Session) : Prop :=
  s.registeredAt.lt t.registeredAt = true ∨ s.registeredAt = t.registeredAt ∧ s.id < t.id

instance (s t : Session) : Decidable (s.Precedes t) := inferInstanceAs (Decidable (_ ∨ _ ∧ _))

theorem listedBy_iff {s t : Session} : s.listedBy t = true ↔ s.place ≤ t.place := by
  rw [listedBy, Bool.or_eq_true, Bool.and_eq_true, decide_eq_true_eq, decide_eq_true_eq, place,
    place, Prod.Lex.toLex_le_toLex, Instant.lt_iff_word, Instant.word_injective.eq_iff]

theorem precedes_iff {s t : Session} : s.Precedes t ↔ s.place < t.place := by
  rw [Precedes, place, place, Prod.Lex.toLex_lt_toLex, Instant.lt_iff_word,
    Instant.word_injective.eq_iff]

theorem id_eq_of_place_eq {s t : Session} (h : s.place = t.place) : s.id = t.id :=
  congrArg (fun p => (ofLex p).2) h

theorem Precedes.trans {s t u : Session} (h : s.Precedes t) (h' : t.Precedes u) : s.Precedes u :=
  precedes_iff.mpr ((precedes_iff.mp h).trans (precedes_iff.mp h'))

/-- Of two sessions with different ids one precedes the other. -/
theorem precedes_or_precedes {s t : Session} (apart : s.id ≠ t.id) :
    s.Precedes t ∨ t.Precedes s := by
  rw [precedes_iff, precedes_iff]
  exact lt_or_gt_of_ne fun same => apart (id_eq_of_place_eq same)

/-- A session has one position among others that precede one another. -/
theorem exists_position {s : Session} : ∀ {l : List Session}, l.Pairwise Precedes →
    (∀ t ∈ l, t.id ≠ s.id) → ∃ earlier later, l = earlier ++ later ∧
      (∀ t ∈ earlier, t.Precedes s) ∧ ∀ t ∈ later, s.Precedes t
  | [], _, _ => ⟨[], [], rfl, List.forall_mem_nil _, List.forall_mem_nil _⟩
  | t :: l, ascending, apart => by
    obtain ⟨first, rest⟩ := List.pairwise_cons.mp ascending
    obtain ⟨apart_t, apart_l⟩ := List.forall_mem_cons.mp apart
    rcases precedes_or_precedes apart_t with before | after
    · obtain ⟨earlier, later, rfl, hearlier, hlater⟩ := exists_position rest apart_l
      exact ⟨t :: earlier, later, rfl, List.forall_mem_cons.mpr ⟨before, hearlier⟩, hlater⟩
    · have follow : ∀ u ∈ l, s.Precedes u := fun u hu => after.trans (first u hu)
      exact ⟨[], t :: l, rfl, List.forall_mem_nil _, List.forall_mem_cons.mpr ⟨after, follow⟩⟩

end Session

namespace Roster

/-- The ids in the order of the listing. -/
def ids (ro : Roster) : List String := ro.sessions.map (·.id)

/-! ### The listing of a roster -/

theorem sessions_perm (ro : Roster) : ro.sessions.Perm (ro.entries.map (·.2.session)) :=
  List.mergeSort_perm _ _

theorem sessions_sorted (ro : Roster) : ro.sessions.Pairwise fun s t => s.place ≤ t.place := by
  refine (List.pairwise_mergeSort (fun s t u hst htu => ?_) (fun s t => ?_) _).imp
    Session.listedBy_iff.mp
  · rw [Session.listedBy_iff] at hst htu ⊢
    exact hst.trans htu
  · rw [Bool.or_eq_true, Session.listedBy_iff, Session.listedBy_iff]
    exact le_total s.place t.place

/-- Rosters with the same places list the same ids. -/
theorem ids_congr {ro ro' : Roster} (same : (ro'.entries.map (·.2.session.place)).Perm
    (ro.entries.map (·.2.session.place))) : ro'.ids = ro.ids := by
  have sorted (ro : Roster) : (ro.sessions.map Session.place).Pairwise (· ≤ ·) :=
    List.pairwise_map.mpr ro.sessions_sorted
  have perm (ro : Roster) :
      (ro.sessions.map Session.place).Perm (ro.entries.map (·.2.session.place)) := by
    have := ro.sessions_perm.map Session.place
    rwa [List.map_map] at this
  have places : ro'.sessions.map Session.place = ro.sessions.map Session.place :=
    ((perm ro').trans (same.trans (perm ro).symm)).eq_of_pairwise (fun _ _ _ _ => le_antisymm)
      (sorted ro') (sorted ro)
  have read (ro : Roster) : ro.ids = (ro.sessions.map Session.place).map fun p => (ofLex p).2 := by
    rw [List.map_map]
    rfl
  rw [read, read, places]

section sound

variable {ro : Roster} (h : ro.Sound)

include h

/-- The ids of the listing are those that the entries stand under. -/
theorem Sound.ids_perm : ro.ids.Perm (ro.entries.map Prod.fst) := by
  have keys : ro.entries.map Prod.fst = (ro.entries.map (·.2.session)).map (·.id) := by
    rw [List.map_map]
    exact List.map_congr_left fun e he => (h.id_eq (h.find?_iff.mpr he)).symm
  rw [keys]
  exact ro.sessions_perm.map _

theorem Sound.nodup_ids : ro.ids.Nodup := h.ids_perm.nodup_iff.mpr h.nodup

/-- **Each session precedes those that are listed after it.** -/
theorem Sound.sessions_pairwise : ro.sessions.Pairwise Session.Precedes := by
  refine ro.sessions_sorted.imp₂ (fun s t le apart => ?_) (List.pairwise_map.mp h.nodup_ids)
  rw [Session.precedes_iff]
  exact lt_of_le_of_ne le fun same => apart (Session.id_eq_of_place_eq same)

/-- **The sessions have no other arrangement in the order of their places.** -/
theorem Sound.sessions_unique {l : List Session} (sorted : l.Pairwise fun s t => s.place ≤ t.place)
    (perm : l.Perm (ro.entries.map (·.2.session))) : l = ro.sessions := by
  have same : l.Perm ro.sessions := perm.trans ro.sessions_perm.symm
  refine List.Perm.eq_of_pairwise (fun s t hs ht hst hts => ?_) sorted ro.sessions_sorted same
  have hid : s.id = t.id := Session.id_eq_of_place_eq (le_antisymm hst hts)
  exact List.inj_on_of_nodup_map h.nodup_ids (same.subset hs) ht hid

/-! ### Changes of the listing -/

theorem Sound.entries_perm {id : String} {e : Entry} (found : ro.find? id = some e) :
    ro.entries.Perm ((id, e) :: ro.others id) := by
  have looked : ro.entries.lookup id = some e := found
  have one : (ro.entries.filter fun p => p.1 = id) = [(id, e)] := by
    rw [filter_key_eq_lookup h.nodup, looked]
    rfl
  have split := List.filter_append_perm (fun p : String × Entry => decide (p.1 = id)) ro.entries
  have rest : (ro.entries.filter fun p => !decide (p.1 = id)) = ro.others id :=
    List.filter_congr fun p _ => (decide_not ..).symm
  rw [one, rest] at split
  exact split.symm

/-- An entry that is put in place of another one for the same place leaves the order. -/
theorem Sound.ids_put {id : String} {e e' : Entry} (found : ro.find? id = some e)
    (same : e'.session.place = e.session.place) : (ro.put id e').ids = ro.ids := by
  refine ids_congr (.trans ?_ ((h.entries_perm found).map (·.2.session.place)).symm)
  rw [Roster.put, List.map_cons, List.map_cons, same]

/-- What becomes of the sessions when one is taken off. -/
theorem Sound.sessions_others (id : String) :
    ({ ro with entries := ro.others id } : Roster).sessions =
      ro.sessions.filter fun s => s.id ≠ id := by
  refine ((h.others id).sessions_unique (ro.sessions_sorted.filter _) ?_).symm
  have keys : (ro.entries.filter fun e => decide (e.2.session.id ≠ id)) = ro.others id := by
    refine List.filter_congr fun e he => ?_
    rw [h.id_eq (h.find?_iff.mpr he)]
  have perm := ro.sessions_perm.filter fun s => decide (s.id ≠ id)
  rw [List.filter_map, Function.comp_def, keys] at perm
  exact perm

/-- **A session that is put in is listed where its place is.** -/
theorem Sound.sessions_put {id : String} {e : Entry} (hid : e.session.id = id)
    (hr : e.revision ≤ ro.lastRevision) :
    ∃ earlier later, (ro.sessions.filter fun s => s.id ≠ id) = earlier ++ later ∧
      (ro.put id e).sessions = earlier ++ e.session :: later ∧
      (∀ s ∈ earlier, s.Precedes e.session) ∧ ∀ s ∈ later, e.session.Precedes s := by
  have rest := h.sessions_others id
  have ascending := (h.others id).sessions_pairwise
  have perm := sessions_perm { ro with entries := ro.others id }
  rw [rest] at ascending perm
  have apart : ∀ s ∈ ro.sessions.filter (fun s => decide (s.id ≠ id)), s.id ≠ e.session.id := by
    intro s hs
    rw [hid]
    simpa using (List.mem_filter.mp hs).2
  obtain ⟨earlier, later, parts, before, after⟩ := Session.exists_position ascending apart
  rw [parts] at ascending perm
  obtain ⟨first, second, cross⟩ := List.pairwise_append.mp ascending
  have whole : (earlier ++ e.session :: later).Pairwise Session.Precedes := by
    refine List.pairwise_append.mpr ⟨first, List.pairwise_cons.mpr ⟨after, second⟩, ?_⟩
    exact fun s hs => List.forall_mem_cons.mpr ⟨before s hs, cross s hs⟩
  refine ⟨earlier, later, parts, ((h.put hid hr).sessions_unique ?_ ?_).symm, before, after⟩
  · exact whole.imp fun precedes => (Session.precedes_iff.mp precedes).le
  · exact List.perm_middle.trans (perm.cons e.session)

/-! ### Requests -/

theorem Sound.sessions_register (r : Registration) (now : Instant) :
    ∃ earlier later, (ro.sessions.filter fun s => s.id ≠ r.id) = earlier ++ later ∧
      (ro.register r now).roster.sessions = earlier ++ .fresh r now :: later ∧
      (∀ s ∈ earlier, s.Precedes (.fresh r now)) ∧ ∀ s ∈ later, (Session.fresh r now).Precedes s :=
  have bumped : ro.nextRevision.Sound := h.congr rfl (Nat.le_succ _)
  bumped.sessions_put (e := ⟨.fresh r now, ro.lastRevision + 1⟩) rfl (Nat.le_refl _)

theorem Sound.sessions_unregister (id : String) :
    (ro.unregister id).roster.sessions = ro.sessions.filter fun s => s.id ≠ id := by
  rw [unregister]
  cases found : ro.find? id with
  | none =>
    refine (List.filter_eq_self.mpr fun s hs => ?_).symm
    obtain ⟨⟨id', e⟩, he, rfl⟩ := mem_sessions.mp hs
    have hf := h.find?_iff.mpr he
    rw [decide_eq_true_eq, h.id_eq hf]
    rintro rfl
    rw [found] at hf
    cases hf
  | some e => exact h.sessions_others id

/-- **Only what is told as the arrival or the end of a session changes the order.** -/
theorem Sound.ids_effect {ro' : Roster} {now : Instant} {ev : Option Event}
    (he : Effect ro now ro' ev) (added : ∀ s replaced, ev ≠ some (.sessionAdded s replaced))
    (removed : ∀ id, ev ≠ some (.sessionRemoved id)) : ro'.ids = ro.ids := by
  have kept {ro ro' : Roster} (entries : ro'.entries = ro.entries) : ro'.ids = ro.ids :=
    ids_congr (entries ▸ .refl _)
  cases he with
  | quiet entries | otherMuted _ _ _ entries => exact kept entries
  | registered r => exact absurd rfl (added _ _)
  | unregistered found => exact absurd rfl (removed _)
  | stateSet found s =>
    have bumped : ro.nextRevision.Sound := h.congr rfl (Nat.le_succ _)
    exact bumped.ids_put found rfl
  | todosSet found todos => exact h.ids_put found rfl
  | touched found => exact h.ids_put found rfl
  | sessionMuted found flag entries => exact (kept entries).trans (h.ids_put found rfl)

end sound

end Roster

end SessionWatch
