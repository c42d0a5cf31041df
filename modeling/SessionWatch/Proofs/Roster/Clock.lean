/-
# Readings of the clock

A request that is granted may put down the time: a registration, a state or
todos that are set, word of a session, and a mute do. Of any other request, the
refused ones included, the time makes no difference.

A session was registered no later than it was last changed, and changed no
later than it was last heard of. Where readings do not go back, none of these
is after the latest reading, so a deed leaves them in order.

Key definitions: `Roster.Asked.reading?`, `Session.Dated`.
Key theorems: `Roster.ask_of_unread`, `Roster.Asked.reading?_of_deed?`,
`Roster.Asked.dated_apply`.
-/
import SessionWatch.Proofs.Roster.Deed
import SessionWatch.Proofs.Time.Order

namespace SessionWatch

namespace Roster

/-! ### Readings -/

/-- The time that was read off the clock and put down, if the request did so. -/
def Asked.reading? (a : Asked) : Option Instant :=
  match a.request, a.result with
  | .register _, .ok _ | .setState _ _, .ok _ | .setTodos _ _, .ok _ | .touch _, .ok _ =>
    some a.now
  | .commitStop _ _, .ok (.stop (.committed _)) => some a.now
  | .mute _ _, .ok (.flag true) => some a.now
  | _, _ => none

theorem Asked.eq_of_reading? {a : Asked} {t : Instant} (read : a.reading? = some t) : t = a.now := by
  unfold reading? at read
  split at read <;> cases read <;> rfl

/-- **A request that does not read the clock comes out the same at any time.** -/
theorem ask_of_unread {ro : Roster} {now : Instant} {r : Request}
    (unread : Asked.reading? ⟨r, now, (ro.ask now r).result⟩ = none) (later : Instant) :
    ro.ask later r = ro.ask now r := by
  cases r with
  | register r => cases unread
  | unregister id | beginStop id | undoMute | clearLastMuted => rfl
  | setState id s =>
    cases found : ro.find? id with
    | none => simp [ask, setState, found]
    | some e => simp [ask, setState, found, Asked.reading?, Outcome.map, Except.map] at unread
  | commitStop t s =>
    cases found : ro.find? t.session.id with
    | none => simp [ask, commitStop, found]
    | some e =>
      by_cases same : e.revision = t.revision
      · simp [ask, commitStop, found, same, Asked.reading?, Outcome.map, Except.map] at unread
      · simp [ask, commitStop, found, same]
  | setTodos id todos =>
    cases found : ro.find? id with
    | none => simp [ask, setTodos, found]
    | some e => simp [ask, setTodos, found, Asked.reading?, Outcome.map, Except.map] at unread
  | touch id =>
    cases found : ro.find? id with
    | none => simp [ask, touch, found]
    | some e => simp [ask, touch, found, Asked.reading?, Outcome.map, Except.map] at unread
  | mute kind id =>
    cases muted : ro.isMuted kind id with
    | true => simp [ask, mute, muted]
    | false =>
      cases set : ro.setMuted? kind id true with
      | none => simp [ask, mute, muted, set]
      | some ro' => simp [ask, mute, muted, set, Asked.reading?, Outcome.map, Except.map] at unread

/-- The time that a deed puts down was read off the clock. -/
theorem Asked.reading?_of_deed? {a : Asked} {id : String} {d : Deed} {t : Instant}
    (did : a.deed? id = some d) (seen : d.seen? a.now = some t) : a.reading? = some t := by
  unfold deed? at did
  unfold reading?
  split at did
  case h_9 => cases did
  all_goals
    rename_i request result
    rw [request, result]
    obtain ⟨-, done⟩ := Option.ite_none_right_eq_some.mp did
    obtain rfl := Option.some.inj done
  -- the end of a session and a mute flag are not dated
  case h_2 | h_7 | h_8 => cases seen
  all_goals exact seen

end Roster

/-! ### Dates of a session -/

/-- The instants of a session are in order, and none is after the latest reading. -/
structure Session.Dated (latest : Option Instant) (s : Session) : Prop where
  registered_le : s.registeredAt.le s.updatedAt = true
  updated_le : s.updatedAt.le s.seenAt = true
  seen_le : ∃ t, latest = some t ∧ s.seenAt.le t = true

namespace Session

variable {latest : Option Instant} {s : Session} {now : Instant}

theorem dated_fresh (r : Registration) (now : Instant) : (fresh r now).Dated (some now) :=
  ⟨now.le_refl, now.le_refl, now, rfl, now.le_refl⟩

/-- All that a session knows of was there by a later reading. -/
theorem Dated.le (h : s.Dated latest) (ahead : ∀ t ∈ latest, t.le now = true) :
    s.registeredAt.le now = true ∧ s.updatedAt.le now = true ∧ s.seenAt.le now = true := by
  obtain ⟨t, rfl, seen⟩ := h.seen_le
  have seen_now := Instant.le_trans seen (ahead t rfl)
  have updated_now := Instant.le_trans h.updated_le seen_now
  exact ⟨Instant.le_trans h.registered_le updated_now, updated_now, seen_now⟩

/-- A reading that does not go back leaves a session dated. -/
theorem Dated.read (h : s.Dated latest) {reading : Option Instant}
    (ahead : ∀ t ∈ latest, ∀ u ∈ reading, t.le u = true) : s.Dated (reading.or latest) := by
  cases reading with
  | none => exact h
  | some now =>
    obtain ⟨-, -, seen⟩ := h.le fun t ht => ahead t ht now rfl
    exact ⟨h.registered_le, h.updated_le, now, rfl, seen⟩

end Session

namespace Roster

/-- **A deed leaves a session dated**, if it is not done before the latest reading. -/
theorem Deed.dated_apply {latest : Option Instant} {now : Instant} {d : Deed}
    (ahead : ∀ t ∈ latest, ∀ u ∈ d.seen? now, t.le u = true) {old : Option Session}
    (h : ∀ s ∈ old, s.Dated latest) :
    ∀ s ∈ d.apply now old, s.Dated ((d.seen? now).or latest) := by
  intro s hs
  cases d with
  | registered r =>
    obtain rfl := Option.some.inj hs
    exact Session.dated_fresh r now
  | removed => cases hs
  | stateSet | todosSet =>
    obtain ⟨s₀, hs₀, rfl⟩ := Option.map_eq_some_iff.mp hs
    obtain ⟨registered, -, -⟩ := (h s₀ hs₀).le fun t ht => ahead t ht now rfl
    exact ⟨registered, now.le_refl, now, rfl, now.le_refl⟩
  | touched =>
    obtain ⟨s₀, hs₀, rfl⟩ := Option.map_eq_some_iff.mp hs
    obtain ⟨-, updated, -⟩ := (h s₀ hs₀).le fun t ht => ahead t ht now rfl
    exact ⟨(h s₀ hs₀).registered_le, updated, now, rfl, now.le_refl⟩
  | flipped | unmuted =>
    obtain ⟨s₀, hs₀, rfl⟩ := Option.map_eq_some_iff.mp hs
    exact ⟨(h s₀ hs₀).registered_le, (h s₀ hs₀).updated_le, (h s₀ hs₀).seen_le⟩

/-- **A request leaves a session dated**, if what it reads off the clock does not go back. -/
theorem Asked.dated_apply {latest : Option Instant} {a : Asked} {id : String}
    (ahead : ∀ t ∈ latest, ∀ u ∈ a.reading?, t.le u = true) {old : Option Session}
    (h : ∀ s ∈ old, s.Dated latest) :
    ∀ s ∈ a.apply id old, s.Dated (a.reading?.or latest) := by
  intro s hs
  cases did : a.deed? id with
  | none =>
    have kept : a.apply id old = old := by rw [apply, did, Option.elim_none]
    exact (h s (kept ▸ hs)).read ahead
  | some d =>
    have done : a.apply id old = d.apply a.now old := by rw [apply, did, Option.elim_some]
    rw [done] at hs
    cases seen : d.seen? a.now with
    | none =>
      have dated := Deed.dated_apply (by simp [seen]) h s hs
      rw [seen, Option.none_or] at dated
      exact dated.read ahead
    | some t =>
      have read := Asked.reading?_of_deed? did seen
      rw [read, ← seen] at ahead ⊢
      exact Deed.dated_apply ahead h s hs

end Roster

end SessionWatch
