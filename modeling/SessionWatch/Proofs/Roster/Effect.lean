/-
# What a request does to a roster

A request touches the entry of one session at most. `Effect` lists what can
become of the entries and what is told of it, and `ask_effect` says that there
is nothing else, so what holds of all requests is shown by its eight cases.
From it every roster that a history leads to is sound: no session has two
entries, each stands under its own id, and no revision was given out ahead of
the last one.

Key definitions: `Roster.Effect`, `Roster.Sound`.
Key theorems: `Roster.ask_effect`, `Roster.Sound.effect`.
-/
import Mathlib.Data.List.Nodup
import SessionWatch.Roster.Request

namespace SessionWatch.Roster

/-! ### Entries by id -/

@[simp] theorem find?_nextRevision (ro : Roster) (id : String) :
    ro.nextRevision.find? id = ro.find? id := rfl

theorem find?_congr {ro ro' : Roster} (h : ro'.entries = ro.entries) (id : String) :
    ro'.find? id = ro.find? id := by
  rw [find?, find?, h]

theorem find?_others (ro : Roster) (id id' : String) :
    ({ ro with entries := ro.others id } : Roster).find? id' =
      if id' = id then none else ro.find? id' := by
  unfold find? others
  by_cases h : id' = id
  · rw [if_pos h, List.lookup_eq_none_iff]
    intro e he
    have := (List.mem_filter.mp he).2
    simp only [ne_eq, decide_eq_true_eq] at this
    simpa [h] using Ne.symm this
  · rw [if_neg h]
    exact lookup_filter_ne h

theorem keys_others (ro : Roster) (id : String) :
    (ro.others id).map Prod.fst = (ro.entries.map Prod.fst).filter (· ≠ id) := by
  simp [others, List.filter_map, Function.comp_def]

/-! ### Sound rosters -/

/-- Each session has one entry, under its id, with a revision that was given out. -/
structure Sound (ro : Roster) : Prop where
  nodup : (ro.entries.map Prod.fst).Nodup
  id_eq : ∀ {id e}, ro.find? id = some e → e.session.id = id
  revision_le : ∀ {id e}, ro.find? id = some e → e.revision ≤ ro.lastRevision

theorem sound_empty : ({} : Roster).Sound :=
  ⟨List.nodup_nil, fun h => by simp [find?] at h, fun h => by simp [find?] at h⟩

theorem Sound.congr {ro ro' : Roster} (h : ro.Sound) (he : ro'.entries = ro.entries)
    (hr : ro.lastRevision ≤ ro'.lastRevision) : ro'.Sound where
  nodup := he ▸ h.nodup
  id_eq hf := h.id_eq (find?_congr he _ ▸ hf)
  revision_le hf := Nat.le_trans (h.revision_le (find?_congr he _ ▸ hf)) hr

theorem Sound.put {ro : Roster} (h : ro.Sound) {id : String} {e : Entry}
    (hid : e.session.id = id) (hr : e.revision ≤ ro.lastRevision) : (ro.put id e).Sound where
  nodup := by
    show (((id, e) :: ro.others id).map Prod.fst).Nodup
    rw [List.map_cons, List.nodup_cons, keys_others]
    exact ⟨by simp, h.nodup.filter _⟩
  id_eq {id' e'} hf := by
    rw [find?_put] at hf
    split at hf
    · rename_i hi
      rw [hi, ← Option.some.inj hf, hid]
    · exact h.id_eq hf
  revision_le {id' e'} hf := by
    rw [find?_put] at hf
    split at hf
    · rw [← Option.some.inj hf]
      exact hr
    · exact h.revision_le hf

theorem Sound.others {ro : Roster} (h : ro.Sound) (id : String) :
    ({ ro with entries := ro.others id } : Roster).Sound := by
  have sub {id' e} (hf : ({ ro with entries := ro.others id } : Roster).find? id' = some e) :
      ro.find? id' = some e := by
    rw [find?_others] at hf
    split at hf
    · cases hf
    · exact hf
  refine ⟨?_, fun hf => h.id_eq (sub hf), fun hf => h.revision_le (sub hf)⟩
  rw [keys_others]
  exact h.nodup.filter _

theorem Sound.find?_iff {ro : Roster} (h : ro.Sound) {id : String} {e : Entry} :
    ro.find? id = some e ↔ (id, e) ∈ ro.entries := by
  have hn := h.nodup
  rw [find?]
  generalize ro.entries = l at hn
  induction l with
  | nil => simp
  | cons x l ih =>
    rw [List.map_cons, List.nodup_cons] at hn
    rw [List.lookup_cons, List.mem_cons]
    by_cases hx : id = x.1
    · have hnot : (id, e) ∉ l := fun he => hn.1 (hx ▸ List.mem_map.mpr ⟨_, he, rfl⟩)
      simp [hx, hx ▸ hnot, Prod.ext_iff, eq_comm]
    · have hb : (id == x.1) = false := by simpa using hx
      simp [hb, ih hn.2, Prod.ext_iff, hx]

/-! ### Effects -/

/-- An entry with the mute flag set. -/
def Entry.withMuted (e : Entry) (flag : Bool) : Entry :=
  { e with session := { e.session with muted := flag } }

/-- An entry with other todos. -/
def Entry.withTodos (e : Entry) (todos : List String) (now : Instant) : Entry :=
  { e with session := { e.session with todos := todos, updatedAt := now, seenAt := now } }

/-- An entry that was heard of. -/
def Entry.seen (e : Entry) (now : Instant) : Entry :=
  { e with session := { e.session with seenAt := now } }

/-- What can become of the entries of a roster, and what is told of it. -/
inductive Effect (ro : Roster) (now : Instant) : Roster → Option Event → Prop where
  | quiet {ro' : Roster} (entries : ro'.entries = ro.entries)
      (revision : ro.lastRevision ≤ ro'.lastRevision) : Effect ro now ro' none
  | registered (r : Registration) :
      Effect ro now (ro.nextRevision.put r.id ⟨.fresh r now, ro.lastRevision + 1⟩)
        (some (.sessionAdded (.fresh r now) (ro.find? r.id).isSome))
  | unregistered {id : String} {e : Entry} (found : ro.find? id = some e) :
      Effect ro now { ro with entries := ro.others id } (some (.sessionRemoved id))
  | stateSet {id : String} {e : Entry} (found : ro.find? id = some e) (s : State) :
      Effect ro now (ro.nextRevision.put id (e.withState s (ro.lastRevision + 1) now))
        (some (.stateChanged e.session.id e.session.state s
          (e.withState s (ro.lastRevision + 1) now).session))
  | todosSet {id : String} {e : Entry} (found : ro.find? id = some e) (todos : List String) :
      Effect ro now (ro.put id (e.withTodos todos now)) (some (.todosChanged id todos))
  | touched {id : String} {e : Entry} (found : ro.find? id = some e) :
      Effect ro now (ro.put id (e.seen now)) none
  | sessionMuted {id : String} {e : Entry} {ro' : Roster} (found : ro.find? id = some e)
      (flag : Bool) (entries : ro'.entries = (ro.put id (e.withMuted flag)).entries)
      (revision : ro'.lastRevision = ro.lastRevision) :
      Effect ro now ro' (some (.muteChanged .session id flag))
  | otherMuted {kind : MuteKind} {ro' : Roster} (id : String) (flag : Bool)
      (outside : kind ≠ .session) (entries : ro'.entries = ro.entries)
      (revision : ro'.lastRevision = ro.lastRevision) :
      Effect ro now ro' (some (.muteChanged kind id flag))

theorem effect_register (ro : Roster) (r : Registration) (now : Instant) :
    Effect ro now (ro.register r now).roster (ro.register r now).event := .registered r

theorem effect_unregister (ro : Roster) (id : String) (now : Instant) :
    Effect ro now (ro.unregister id).roster (ro.unregister id).event := by
  rw [unregister]
  cases h : ro.find? id with
  | none => exact .quiet rfl (Nat.le_refl _)
  | some e => exact .unregistered h

theorem effect_setState (ro : Roster) (id : String) (s : State) (now : Instant) :
    Effect ro now (ro.setState id s now).roster (ro.setState id s now).event := by
  simp only [setState, find?_nextRevision]
  cases h : ro.find? id with
  | none => exact .quiet rfl (Nat.le_succ _)
  | some e => exact .stateSet h s

theorem effect_commitStop (ro : Roster) (t : Ticket) (s : State) (now : Instant) :
    Effect ro now (ro.commitStop t s now).roster (ro.commitStop t s now).event := by
  simp only [commitStop, find?_nextRevision]
  cases h : ro.find? t.session.id with
  | none => exact .quiet rfl (Nat.le_succ _)
  | some e =>
    by_cases hr : e.revision = t.revision
    · simp only [if_pos hr]
      exact .stateSet h s
    · simp only [if_neg hr]
      exact .quiet rfl (Nat.le_succ _)

theorem effect_setTodos (ro : Roster) (id : String) (todos : List String) (now : Instant) :
    Effect ro now (ro.setTodos id todos now).roster (ro.setTodos id todos now).event := by
  rw [setTodos]
  cases h : ro.find? id with
  | none => exact .quiet rfl (Nat.le_refl _)
  | some e => exact .todosSet h todos

theorem effect_touch (ro : Roster) (id : String) (now : Instant) :
    Effect ro now (ro.touch id now).roster (ro.touch id now).event := by
  rw [touch]
  cases h : ro.find? id with
  | none => exact .quiet rfl (Nat.le_refl _)
  | some e => exact .touched h

/-- Setting a mute flag is told as such, whatever becomes of the last mute. -/
theorem effect_setMuted {ro ro' : Roster} {kind : MuteKind} {id : String} {flag : Bool}
    {last : Option MuteRecord}
    (h : ({ ro with lastMuted := last } : Roster).setMuted? kind id flag = some ro')
    (last' : Option MuteRecord) (now : Instant) :
    Effect ro now { ro' with lastMuted := last' } (some (.muteChanged kind id flag)) := by
  cases kind with
  | session =>
    obtain ⟨e, he, rfl⟩ := Option.map_eq_some_iff.mp h
    have found : ro.find? id = some e := he
    exact .sessionMuted found flag rfl rfl
  | pr | repo | author =>
    obtain rfl := Option.some.inj h
    exact .otherMuted id flag (by simp) rfl rfl

theorem effect_mute (ro : Roster) (kind : MuteKind) (id : String) (now : Instant) :
    Effect ro now (ro.mute kind id now).roster (ro.mute kind id now).event := by
  rw [mute]
  cases h : ro.setMuted? kind id (!ro.isMuted kind id) with
  | none => exact .quiet rfl (Nat.le_refl _)
  | some ro' => exact effect_setMuted h _ now

theorem effect_undoMute (ro : Roster) (now : Instant) :
    Effect ro now ro.undoMute.roster ro.undoMute.event := by
  rw [undoMute]
  cases ro.lastMuted with
  | none => exact .quiet rfl (Nat.le_refl _)
  | some r =>
    dsimp only
    cases h : ({ ro with lastMuted := none } : Roster).setMuted? r.kind r.id false with
    | none => exact .quiet rfl (Nat.le_refl _)
    | some ro' => exact effect_setMuted h ro'.lastMuted now

/-- **A request has one of the effects.** -/
theorem ask_effect (ro : Roster) (now : Instant) (r : Request) :
    Effect ro now (ro.ask now r).roster (ro.ask now r).event := by
  cases r with
  | register r => exact effect_register ro r now
  | unregister id => exact effect_unregister ro id now
  | setState id s => exact effect_setState ro id s now
  | beginStop id => exact .quiet rfl (Nat.le_refl _)
  | commitStop t s => exact effect_commitStop ro t s now
  | setTodos id todos => exact effect_setTodos ro id todos now
  | touch id => exact effect_touch ro id now
  | mute kind id => exact effect_mute ro kind id now
  | undoMute => exact effect_undoMute ro now
  | clearLastMuted => exact .quiet rfl (Nat.le_refl _)

theorem Sound.effect {ro ro' : Roster} {now : Instant} {ev : Option Event} (h : ro.Sound)
    (he : Effect ro now ro' ev) : ro'.Sound := by
  have bumped : ro.nextRevision.Sound := h.congr rfl (Nat.le_succ _)
  cases he with
  | quiet entries revision => exact h.congr entries revision
  | registered r => exact bumped.put rfl (Nat.le_refl _)
  | unregistered found => exact h.others _
  | stateSet found s =>
    have hid := h.id_eq found
    exact bumped.put hid (Nat.le_refl _)
  | todosSet found todos =>
    have hid := h.id_eq found
    have hr := h.revision_le found
    exact h.put hid hr
  | touched found =>
    have hid := h.id_eq found
    have hr := h.revision_le found
    exact h.put hid hr
  | @sessionMuted id e _ found flag entries revision =>
    have hid := h.id_eq found
    have hr := h.revision_le found
    have hput : (ro.put id (e.withMuted flag)).Sound := h.put hid hr
    exact hput.congr entries (Nat.le_of_eq revision.symm)
  | otherMuted id flag outside entries revision =>
    exact h.congr entries (Nat.le_of_eq revision.symm)

end SessionWatch.Roster
