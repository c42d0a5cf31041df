/-
# The roster

The roster holds the sessions that are registered, what else is muted, and the
last mute as long as it can be undone. Every registration and every change of
state takes a new revision, so that a revision tells whether anything happened
to a session since.

Key definitions: `Roster`, `Roster.Entry`, `Roster.find?`, `Roster.sessions`,
`Roster.isMuted`.
Key theorems: `Roster.mem_sessions`.
-/
import SessionWatch.Wire.Event

namespace SessionWatch

/-- A session and the revision of its state. -/
structure Roster.Entry where
  session : Session
  revision : Nat
  deriving DecidableEq

/-- All sessions, and what is muted. -/
structure Roster where
  /-- The sessions by id. -/
  entries : List (String × Roster.Entry) := []
  /-- What is muted besides sessions. -/
  muted : List (MuteKind × String) := []
  lastMuted : Option MuteRecord := none
  lastRevision : Nat := 0
  deriving DecidableEq

namespace Session

/-- Sessions are listed by the time of their registration, those of one time by id. -/
def listedBy (s t : Session) : Bool :=
  s.registeredAt.lt t.registeredAt || (s.registeredAt = t.registeredAt && s.id ≤ t.id)

/-- A session as it is registered. -/
def fresh (r : Registration) (now : Instant) : Session where
  id := r.id
  label := r.label
  cwd := r.cwd
  agent := r.agent
  state := .working
  todos := []
  muted := false
  registeredAt := now
  updatedAt := now
  seenAt := now

end Session

namespace Roster

/-- The entry of a session. -/
def find? (ro : Roster) (id : String) : Option Entry := ro.entries.lookup id

/-- The entries without the one of a session. -/
def others (ro : Roster) (id : String) : List (String × Entry) :=
  ro.entries.filter fun e => e.1 ≠ id

/-- The roster with this entry for a session. -/
def put (ro : Roster) (id : String) (e : Entry) : Roster :=
  { ro with entries := (id, e) :: ro.others id }

/-- The sessions in the order in which they are listed. -/
def sessions (ro : Roster) : List Session :=
  (ro.entries.map fun e => e.2.session).mergeSort Session.listedBy

/-- The sessions in a state, or all of them. -/
def query (ro : Roster) : Option State → List Session
  | none => ro.sessions
  | some s => ro.sessions.filter fun t => t.state = s

/-- How many sessions there are. -/
def count (ro : Roster) : Nat := ro.entries.length

/-- Whether a thing is muted; a session carries its own flag. -/
def isMuted (ro : Roster) (kind : MuteKind) (id : String) : Bool :=
  match kind with
  | .session => (ro.find? id).any fun e => e.session.muted
  | kind => (kind, id) ∈ ro.muted

/-- The roster with a mute flag set; a session has to be there for it. -/
def setMuted? (ro : Roster) (kind : MuteKind) (id : String) (flag : Bool) : Option Roster :=
  match kind with
  | .session =>
    (ro.find? id).map fun e => ro.put id { e with session := { e.session with muted := flag } }
  | kind =>
    let others := ro.muted.filter (· ≠ (kind, id))
    some { ro with muted := if flag then (kind, id) :: others else others }

theorem mem_sessions {ro : Roster} {s : Session} :
    s ∈ ro.sessions ↔ ∃ e ∈ ro.entries, e.2.session = s := by
  simp [sessions, List.mem_mergeSort]

theorem lookup_filter_ne {entries : List (String × Entry)} {id id' : String} (h : id' ≠ id) :
    (entries.filter fun e => e.1 ≠ id).lookup id' = entries.lookup id' := by
  induction entries with
  | nil => rfl
  | cons x xs ih =>
    by_cases hx : x.1 = id
    · have : (id' == x.1) = false := by simpa [hx] using h
      rw [List.filter_cons_of_neg (by simp [hx]), ih, List.lookup_cons, this]
    · rw [List.filter_cons_of_pos (by simpa using hx), List.lookup_cons, List.lookup_cons, ih]

theorem find?_put (ro : Roster) (id id' : String) (e : Entry) :
    (ro.put id e).find? id' = if id' = id then some e else ro.find? id' := by
  unfold find? put others
  rw [List.lookup_cons]
  by_cases h : id' = id
  · simp [h]
  · have : (id' == id) = false := by simpa using h
    rw [this, if_neg h]
    exact lookup_filter_ne h

end Roster

end SessionWatch
