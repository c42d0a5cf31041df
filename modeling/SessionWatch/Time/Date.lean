/-
# Dates

Dates of the Gregorian calendar, extended to all years. A date is moved by
single days; `Date.dayNumber` counts the days from a fixed one, for the
distance between two dates.

Key definitions: `Date`, `Date.next`, `Date.prev`, `Date.dayNumber`,
`Date.ofDayNumber`.
Key theorems: `Date.isValid_next`, `Date.isValid_prev`.
-/

namespace SessionWatch

/-- A date by its year, month and day. -/
structure Date where
  year : Int
  month : Nat
  day : Nat
  deriving DecidableEq

namespace Date

def isLeap (year : Int) : Bool := (year % 4 = 0 && year % 100 ≠ 0) || year % 400 = 0

def monthLength (year : Int) (month : Nat) : Nat :=
  if month = 2 then if isLeap year then 29 else 28
  else if month = 4 ∨ month = 6 ∨ month = 9 ∨ month = 11 then 30
  else 31

/-- A date that is in the calendar. -/
def IsValid (d : Date) : Prop :=
  1 ≤ d.month ∧ d.month ≤ 12 ∧ 1 ≤ d.day ∧ d.day ≤ monthLength d.year d.month

instance (d : Date) : Decidable d.IsValid := inferInstanceAs (Decidable (_ ∧ _ ∧ _ ∧ _))

/-- Earlier in the calendar. -/
def lt (d e : Date) : Bool :=
  d.year < e.year || (d.year = e.year && (d.month < e.month ||
    (d.month = e.month && d.day < e.day)))

/-- The day after. -/
def next (d : Date) : Date :=
  if d.day < monthLength d.year d.month then { d with day := d.day + 1 }
  else if d.month < 12 then ⟨d.year, d.month + 1, 1⟩
  else ⟨d.year + 1, 1, 1⟩

/-- The day before. -/
def prev (d : Date) : Date :=
  if 1 < d.day then { d with day := d.day - 1 }
  else if 1 < d.month then ⟨d.year, d.month - 1, monthLength d.year (d.month - 1)⟩
  else ⟨d.year - 1, 12, 31⟩

theorem one_le_monthLength (year : Int) (month : Nat) : 28 ≤ monthLength year month := by
  unfold monthLength; repeat' split
  all_goals omega

theorem isValid_next {d : Date} (h : d.IsValid) : d.next.IsValid := by
  obtain ⟨h1, h2, h3, h4⟩ := h
  have := one_le_monthLength d.year (d.month + 1)
  have := one_le_monthLength (d.year + 1) 1
  unfold next IsValid
  split
  · exact ⟨h1, h2, by simp, by simp; omega⟩
  · split <;> exact ⟨by simp, by simp; try omega, by simp, by simp; omega⟩

theorem isValid_prev {d : Date} (h : d.IsValid) : d.prev.IsValid := by
  obtain ⟨h1, h2, h3, h4⟩ := h
  have := one_le_monthLength d.year (d.month - 1)
  unfold prev IsValid
  split
  · exact ⟨h1, h2, by simp; omega, by simp; omega⟩
  · split
    · exact ⟨by simp; omega, by simp; omega, by simp; omega, by simp⟩
    · exact ⟨by simp, by simp, by simp, by simp [monthLength]⟩

/-- Days from the first of March of year zero. Years are counted from March, so that the day
that leap years add is their last. -/
def dayNumber (d : Date) : Int :=
  let year := if d.month ≤ 2 then d.year - 1 else d.year
  let month : Int := (d.month + 9) % 12
  year * 365 + year / 4 - year / 100 + year / 400 + (month * 153 + 2) / 5 + d.day - 1

/-- The date with a day number. -/
def ofDayNumber (n : Int) : Date :=
  let era := n / 146097
  let dayOfEra := n % 146097
  let yearOfEra := (dayOfEra - dayOfEra / 1460 + dayOfEra / 36524 - dayOfEra / 146096) / 365
  let dayOfYear := dayOfEra - (yearOfEra * 365 + yearOfEra / 4 - yearOfEra / 100)
  let month := (dayOfYear * 5 + 2) / 153
  let day := dayOfYear - (month * 153 + 2) / 5 + 1
  let month' := if month < 10 then month + 3 else month - 9
  ⟨yearOfEra + era * 400 + (if month' ≤ 2 then 1 else 0), month'.toNat, day.toNat⟩

end Date

end SessionWatch
