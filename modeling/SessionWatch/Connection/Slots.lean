/-
# The connection budget

A connection counts itself in before it looks whether there was room, and
counts itself out again if there was none. In between, the counter is one
above the number of connections that were let in.

Key definitions: `Slots`, `Slots.countIn`, `Slots.countOut`.
-/

namespace SessionWatch

/-- The counter of connections and its bound. -/
structure Slots where
  max : Nat
  /-- Connections that are counted in. -/
  active : Nat := 0
  deriving DecidableEq

namespace Slots

/-- Counts a connection in; whether there was room for it is the answer. -/
def countIn (s : Slots) : Slots × Bool :=
  ({ s with active := s.active + 1 }, s.active < s.max)

/-- Counts a connection out, at its end or after it found no room. -/
def countOut (s : Slots) : Slots := { s with active := s.active - 1 }

end Slots

end SessionWatch
