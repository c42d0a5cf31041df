/-
# Instants

A moment of universal time: a date, a second of the day and nanoseconds. A
leap second is the second before it with a thousand million nanoseconds or
more. Instants are ordered by date, second and nanosecond.

Key definitions: `Instant`, `Instant.lt`, `Instant.east`, `Instant.secondsSince`.
-/
import SessionWatch.Time.Date

namespace SessionWatch

/-- A point in time, in the universal time. -/
structure Instant where
  date : Date
  second : Nat
  nano : Nat
  deriving DecidableEq

namespace Instant

/-- Seconds of a day. -/
def dayLength : Nat := 86400

/-- An instant that clocks can show; a leap second has more than a second of nanoseconds. -/
def IsValid (t : Instant) : Prop :=
  t.date.IsValid ∧ t.second < dayLength ∧
    (t.nano < 1000000000 ∨ t.nano < 2000000000 ∧ t.second % 60 = 59)

instance (t : Instant) : Decidable t.IsValid := inferInstanceAs (Decidable (_ ∧ _ ∧ _))

/-- Before another instant. -/
def lt (t u : Instant) : Bool :=
  t.date.lt u.date || (t.date = u.date && (t.second < u.second ||
    (t.second = u.second && t.nano < u.nano)))

def le (t u : Instant) : Bool := !u.lt t

/-- The instant at which clocks `offset` seconds east of Greenwich show the time of `t`. -/
def east (t : Instant) (offset : Int) : Instant :=
  let s := (t.second : Int) - offset
  if s < 0 then { t with date := t.date.prev, second := (s + dayLength).toNat }
  else if dayLength ≤ s then { t with date := t.date.next, second := (s - dayLength).toNat }
  else { t with second := s.toNat }

theorem east_zero (t : Instant) (h : t.second < dayLength) : t.east 0 = t := by
  unfold east
  simp only [Int.sub_zero, Int.toNat_natCast]
  rw [if_neg (by omega), if_neg (by omega)]

/-- Nanoseconds from the first of March of year zero. -/
def nanoNumber (t : Instant) : Int :=
  (t.date.dayNumber * dayLength + t.second) * 1000000000 + t.nano

/-- Whole seconds from `u` to `t`; a part of a second is cut off. -/
def secondsSince (t u : Instant) : Int := (t.nanoNumber - u.nanoNumber).tdiv 1000000000

/-- The instant with a number of nanoseconds. -/
def ofNanoNumber (n : Int) : Instant :=
  let seconds := n / 1000000000
  ⟨.ofDayNumber (seconds / dayLength), (seconds % dayLength).toNat, (n % 1000000000).toNat⟩

end Instant

end SessionWatch
