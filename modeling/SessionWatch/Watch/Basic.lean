/-
# The roster with its feed

Whatever changes the roster is told to the observers before anything else
happens, so that each of them sees the events in the order of the changes, and
what a new observer starts from is the roster at the place of its first event.

Key definitions: `Watch`, `Watch.new`, `Watch.commit`, `Watch.initialLine`,
`Watch.subscribe`.
-/
import SessionWatch.Feed.Basic
import SessionWatch.Roster.Change

namespace SessionWatch

/-- A roster and the feed of its changes. -/
structure Watch where
  roster : Roster := {}
  feed : Feed
  deriving DecidableEq

namespace Watch

/-- A watch to which nothing has happened yet. -/
def new (capacity limit : Nat) : Watch := { feed := .new capacity limit }

/-- Offers the line of an event to all observers. -/
def tell (w : Watch) : Option Event → Watch
  | none => w
  | some e => { w with feed := w.feed.publish e.line }

/-- Puts a change of the roster in force and tells the observers. -/
def commit {α : Type} (w : Watch) (o : Roster.Outcome α) : Watch × Except Problem α :=
  (({ w with roster := o.roster } : Watch).tell o.event, o.result)

/-- The first line of an observer: all sessions, and the last mute. -/
def initialLine (w : Watch) : String :=
  (Event.initialState w.roster.sessions w.roster.lastMuted).line

/-- A new observer, or the refusal if there are too many. -/
def subscribe (w : Watch) : Watch × Except Problem Nat :=
  match w.feed.subscribe? w.initialLine with
  | none => (w, .error (.tooManyObservers w.feed.limit))
  | some (feed, id) => ({ w with feed := feed }, .ok id)

end Watch

end SessionWatch
