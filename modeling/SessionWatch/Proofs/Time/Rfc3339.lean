/-
# Instants are read back from their text

An instant is written in universal time, and what is written is read as the
same instant, whatever places the second has: each part is a number with
zeros in front, and the reader takes as many digits as there are. A year that
needs a sign has one, and a leap second is the sixtieth of its minute.

Key definitions: `Instant.InCalendar`, `Instant.IsWritable`, `Instant.Digits`.
Key theorems: `Instant.decimal_padded`, `Instant.readDigits_append`,
`Instant.readYear_yearText`, `Instant.parse_text`.
-/
import SessionWatch.Time.Rfc3339

namespace SessionWatch.Instant

/-- An instant that clocks show, in a year that dates have. -/
structure InCalendar (t : Instant) : Prop where
  valid : t.IsValid
  year : firstYear ≤ t.date.year ∧ t.date.year ≤ lastYear

/-- An instant that clocks show in a year of four digits, outside a leap second. -/
structure IsWritable (t : Instant) : Prop where
  valid : t.IsValid
  year : 0 ≤ t.date.year ∧ t.date.year ≤ 9999
  no_leap : t.nano < 1000000000

theorem IsWritable.inCalendar {t : Instant} (h : t.IsWritable) : t.InCalendar where
  valid := h.valid
  year := by
    have first : firstYear = -262143 := rfl
    have last : lastYear = 262142 := rfl
    have := h.year
    omega

/-! ### Numbers with zeros in front -/

/-- One digit or more. -/
structure Digits (ds : List Char) : Prop where
  all : ∀ c ∈ ds, c.isDigit = true
  some : ds ≠ []

theorem decimal_eq (ds : List Char) : decimal ds = Nat.ofDigitChars 10 ds 0 := by
  have step (n : Nat) : ds.foldl (fun n d => n * 10 + (d.toNat - 48)) n =
      Nat.ofDigitChars 10 ds n := by
    rw [Nat.ofDigitChars_eq_foldl]
    simp only [Nat.mul_comm 10]
    rfl
  exact step 0

theorem ofDigitChars_replicate_zero (k : Nat) (cs : List Char) :
    Nat.ofDigitChars 10 (List.replicate k '0' ++ cs) 0 = Nat.ofDigitChars 10 cs 0 := by
  induction k with
  | zero => rfl
  | succ k ih => exact ih

theorem decimal_padded (width n : Nat) : decimal (padded width n) = n := by
  rw [decimal_eq, padded, ofDigitChars_replicate_zero, Nat.toList_repr,
    Nat.ofDigitChars_ten_toDigits]

theorem digits_padded (width n : Nat) : Digits (padded width n) where
  all c hc := by
    rw [padded, Nat.toList_repr, List.mem_append] at hc
    rcases hc with hc | hc
    · rw [List.eq_of_mem_replicate hc]
      rfl
    · exact Nat.isDigit_of_mem_toDigits (by decide) (by decide) hc
  some := by
    rw [padded, Nat.toList_repr]
    exact List.append_ne_nil_of_right_ne_nil _ Nat.toDigits_ne_nil

theorem length_padded {width n : Nat} (room : 0 < width) (h : n < Nat.pow 10 width) :
    (padded width n).length = width := by
  have short : (Nat.toDigits 10 n).length ≤ width :=
    (Nat.length_toDigits_le_iff (by decide) room).mpr h
  rw [padded, Nat.toList_repr, List.length_append, List.length_replicate]
  omega

/-! ### The parts of an instant -/

section parts

variable {ds rest : List Char}

theorem not_isBlank_of_isDigit {c : Char} (h : c.isDigit = true) : Text.isBlank c = false := by
  have digit : 48 ≤ c.toNat ∧ c.toNat ≤ 57 := Char.isDigit_iff_toNat.mp h
  rw [Text.isBlank, List.any_eq_false]
  intro r hr
  have outside : ∀ r ∈ Text.blankRanges, r.2 < 48 ∨ 57 < r.1 := by decide
  have apart := outside r hr
  simp only [Bool.and_eq_true, decide_eq_true_eq]
  omega

/-- Digits begin with no blank. -/
theorem Digits.dropBlanks_append (h : Digits ds) (rest : List Char) :
    Text.dropBlanks (ds ++ rest) = ds ++ rest := by
  obtain ⟨c, cs, rfl⟩ := List.exists_cons_of_ne_nil h.some
  have digit := h.all c List.mem_cons_self
  rw [List.cons_append, Text.dropBlanks,
    List.dropWhile_cons_of_neg (by simp [not_isBlank_of_isDigit digit])]

/-- Digits are taken up to the number that there may be, or up to what is no digit. -/
theorem readDigits_append (h : Digits ds) {max : Option Nat} (short : ∀ n ∈ max, ds.length ≤ n)
    (ends : max = some ds.length ∨ ∀ c ∈ rest.head?, c.isDigit = false) :
    readDigits max (ds ++ rest) = .ok (ds, rest) := by
  obtain ⟨c, cs, hcs⟩ := List.exists_cons_of_ne_nil h.some
  have digit : c.isDigit = true := h.all c (hcs ▸ List.mem_cons_self)
  have first : ds ++ rest = c :: (cs ++ rest) := by rw [hcs, List.cons_append]
  have none_more (stops : ∀ c ∈ rest.head?, c.isDigit = false) (n : Nat) :
      rest.takeWhile Char.isDigit = [] ∧ (rest.take n).takeWhile Char.isDigit = [] := by
    cases rest with
    | nil => exact ⟨rfl, by rw [List.take_nil, List.takeWhile_nil]⟩
    | cons d ds =>
      have stop : d.isDigit = false := stops d rfl
      cases n <;> simp [stop]
  unfold readDigits
  rw [first]
  simp only [if_pos digit]
  rw [← first]
  cases max with
  | none =>
    have stops := ends.resolve_left (by rintro ⟨⟩)
    simp only
    rw [List.takeWhile_append_of_pos h.all, (none_more stops 0).1, List.append_nil, List.drop_left]
  | some n =>
    simp only
    rw [List.take_append, List.take_of_length_le (short n rfl), List.takeWhile_append_of_pos h.all]
    have rest_taken : (rest.take (n - ds.length)).takeWhile Char.isDigit = [] := by
      rcases ends with full | stops
      · rw [Option.some.inj full, Nat.sub_self, List.take_zero, List.takeWhile_nil]
      · exact (none_more stops _).2
    rw [rest_taken, List.append_nil, List.drop_left]

/-- As many digits as there may be are taken whatever follows them. -/
theorem readDigits_full (h : Digits ds) {n : Nat} (length : ds.length = n) (rest : List Char) :
    readDigits (some n) (ds ++ rest) = .ok (ds, rest) :=
  readDigits_append h (fun _ hm => Nat.le_of_eq (length.trans (Option.some.inj hm)))
    (.inl (congrArg some length.symm))

/-- A part of a date or time is read back between its bounds. -/
theorem readPart_padded (low high : Nat) {n : Nat} (bounds : low ≤ n ∧ n ≤ high) (two : n < 100)
    (rest : List Char) : readPart low high (padded 2 n ++ rest) = .ok (n, rest) := by
  have digits := digits_padded 2 n
  have length : (padded 2 n).length = 2 := length_padded (by decide) two
  rw [readPart, digits.dropBlanks_append, readDigits_full digits length]
  simp only [decimal_padded, if_pos bounds]

theorem readMark_cons (mark : Char) (h : Text.isBlank mark = false) (rest : List Char) :
    readMark mark (mark :: rest) = .ok rest := by
  rw [readMark, Text.dropBlanks, List.dropWhile_cons_of_neg (by simp [h])]
  exact if_pos rfl

/-- A year of four digits is read back, whatever follows it. -/
theorem readYear_unsigned {year : Int} (h : 0 ≤ year ∧ year ≤ 9999) (rest : List Char) :
    readYear (yearText year ++ rest) = .ok (year, rest) := by
  have digits := digits_padded 4 year.toNat
  have short : year.toNat < 10000 := by omega
  have length : (padded 4 year.toNat).length = 4 := length_padded (by decide) short
  have read := readDigits_full digits length rest
  rw [yearText, if_pos h]
  unfold readYear
  rw [digits.dropBlanks_append]
  have unsigned {sign : Char} (mark : sign.isDigit = false) (cs : List Char) :
      padded 4 year.toNat ++ rest ≠ sign :: cs := fun heq => by
    obtain ⟨c, cs', hcs⟩ := List.exists_cons_of_ne_nil digits.some
    rw [hcs, List.cons_append] at heq
    have digit := digits.all c (hcs ▸ List.mem_cons_self)
    rw [(List.cons.inj heq).1, mark] at digit
    cases digit
  split
  · rename_i heq
    exact absurd heq (unsigned (by decide) _)
  · rename_i heq
    exact absurd heq (unsigned (by decide) _)
  · rw [read]
    simp only [decimal_padded, Int.toNat_of_nonneg h.1]

/-- A year with a sign is read back in front of what is no digit. -/
theorem readYear_signed {year : Int} (h : ¬(0 ≤ year ∧ year ≤ 9999))
    (bound : year.natAbs < yearBound) (ends : ∀ c ∈ rest.head?, c.isDigit = false) :
    readYear (yearText year ++ rest) = .ok (year, rest) := by
  have read : readDigits none (padded 4 year.natAbs ++ rest) = .ok (padded 4 year.natAbs, rest) :=
    readDigits_append (digits_padded 4 year.natAbs) (fun _ hn => by cases hn) (.inr ends)
  have mark {sign : Char} (shown : Text.isBlank sign = false) (cs : List Char) :
      Text.dropBlanks (sign :: cs) = sign :: cs :=
    List.dropWhile_cons_of_neg (by simp [shown])
  rw [yearText, if_neg h, List.cons_append, readYear]
  by_cases negative : year < 0
  · have value : -1 * (year.natAbs : Int) = year := by omega
    rw [if_pos negative, mark (by decide)]
    simp only [read, decimal_padded, if_pos (Or.inl bound), value]
  · have value : 1 * (year.natAbs : Int) = year := by omega
    rw [if_neg negative, mark (by decide)]
    simp only [read, decimal_padded, if_pos (Or.inl bound), value]

/-- The year of an instant is read back in front of the mark that follows it. -/
theorem readYear_yearText {year : Int} (h : firstYear ≤ year ∧ year ≤ lastYear)
    (rest : List Char) : readYear (yearText year ++ '-' :: rest) = .ok (year, '-' :: rest) := by
  by_cases four : 0 ≤ year ∧ year ≤ 9999
  · exact readYear_unsigned four _
  · have first : firstYear = -262143 := rfl
    have last : lastYear = 262142 := rfl
    have bound : yearBound = 2147483648 := rfl
    refine readYear_signed four (by omega) ?_
    rintro _ ⟨⟩
    rfl

/-- The places of a second are read back, in front of the mark of universal time. -/
theorem readFraction_fractionText {nano : Nat} (h : nano < 1000000000) :
    readFraction (fractionText nano ++ ['Z']) = .ok (nano, ['Z']) := by
  have places {width n : Nat} (room : 0 < width) (short : width ≤ 9) (fits : n < 10 ^ width) :
      readFraction ('.' :: padded width n ++ ['Z']) = .ok (n * Nat.pow 10 (9 - width), ['Z']) := by
    have digits := digits_padded width n
    have mark : ∀ c ∈ ['Z'].head?, c.isDigit = false := by
      rintro _ ⟨⟩
      rfl
    have length : (padded width n).length = width := length_padded room fits
    have room_left : ∀ m ∈ some 9, (padded width n).length ≤ m := by
      rintro _ ⟨⟩
      omega
    have read : readDigits (some 9) (padded width n ++ ['Z']) = .ok (padded width n, ['Z']) :=
      readDigits_append digits room_left (.inr mark)
    rw [List.cons_append, readFraction, read]
    simp only [decimal_padded, length]
    rfl
  have exact (k : Nat) (whole : nano % k = 0) : nano / k * k = nano :=
    Nat.div_mul_cancel (Nat.dvd_of_mod_eq_zero whole)
  unfold fractionText
  split
  · rename_i zero
    rw [zero]
    rfl
  · split
    · rename_i whole
      rw [places (by decide) (by decide) (by omega)]
      show Except.ok (nano / 1000000 * 1000000, ['Z']) = _
      rw [exact 1000000 whole]
    · split
      · rename_i whole
        rw [places (by decide) (by decide) (by omega)]
        show Except.ok (nano / 1000 * 1000, ['Z']) = _
        rw [exact 1000 whole]
      · rw [places (by decide) (by decide) (by omega)]
        show Except.ok (nano * 1, ['Z']) = _
        rw [Nat.mul_one]

end parts

/-! ### Whole instants -/

theorem monthLength_le (year : Int) (month : Nat) : Date.monthLength year month ≤ 31 := by
  unfold Date.monthLength
  split
  · split <;> omega
  · split <;> omega

/-- A date and time of universal time is what it is. -/
theorem ofLocal_zero {t : Instant} (h : t.InCalendar) :
    ofLocal t.date t.second t.nano 0 = .ok t := by
  obtain ⟨⟨date, second, -⟩, within⟩ := h
  have small : -(dayLength : Int) < 0 ∧ (0 : Int) < dayLength := by decide
  rw [ofLocal, if_neg (not_not_intro ⟨within.1, within.2, date⟩), if_neg (not_not_intro small)]
  have here : Instant.east ⟨t.date, t.second, t.nano⟩ 0 = t := east_zero t second
  simp only [here, if_pos within]

/-- The parts of a date and time are read back, each from its place. -/
theorem ofChars_parts {year : Int} {month day hour minute second nano : Nat}
    (hyear : firstYear ≤ year ∧ year ≤ lastYear) (hmonth : 1 ≤ month ∧ month ≤ 12)
    (hday : 1 ≤ day ∧ day ≤ 31) (hhour : hour ≤ 23) (hminute : minute ≤ 59) (hsecond : second ≤ 60)
    (hnano : nano < 1000000000) :
    ofChars (yearText year ++ '-' :: padded 2 month ++ '-' :: padded 2 day
      ++ 'T' :: padded 2 hour ++ ':' :: padded 2 minute ++ ':' :: padded 2 second
      ++ fractionText nano ++ ['Z']) =
      ofLocal ⟨year, month, day⟩
        (hour * 3600 + minute * 60 + (second - if second = 60 then 1 else 0))
        ((if second = 60 then 1 else 0) * 1000000000 + nano) 0 := by
  have separator (cs : List Char) : readSeparator ('T' :: cs) = .ok cs := rfl
  have offset : readOffset (Text.dropBlanks ['Z']) = .ok (0, []) := rfl
  have nothing_left : ¬ Text.dropBlanks ([] : List Char) ≠ [] := by decide
  rw [ofChars]
  simp only [List.append_assoc, List.cons_append, bind, Except.bind,
    readYear_yearText hyear, readMark_cons '-' (by decide),
    readPart_padded 1 12 hmonth (Nat.lt_of_le_of_lt hmonth.2 (by decide)),
    readPart_padded 1 31 hday (Nat.lt_of_le_of_lt hday.2 (by decide)), separator,
    readPart_padded 0 23 ⟨Nat.zero_le _, hhour⟩ (Nat.lt_of_le_of_lt hhour (by decide)),
    readMark_cons ':' (by decide),
    readPart_padded 0 59 ⟨Nat.zero_le _, hminute⟩ (Nat.lt_of_le_of_lt hminute (by decide)),
    readPart_padded 0 60 ⟨Nat.zero_le _, hsecond⟩ (Nat.lt_of_le_of_lt hsecond (by decide)),
    readFraction_fractionText hnano, offset, if_neg nothing_left]

/-- A leap second is told by the nanoseconds of an instant, and by the second that is shown. -/
theorem leap_of_isValid {t : Instant} (h : t.IsValid) {leap : Nat}
    (told : (if 1000000000 ≤ t.nano then 1 else 0) = leap) :
    t.second % 60 + leap ≤ 60 ∧ (if t.second % 60 + leap = 60 then 1 else 0) = leap ∧
      leap * 1000000000 ≤ t.nano ∧ t.nano - leap * 1000000000 < 1000000000 := by
  obtain ⟨-, -, nano⟩ := h
  split at told <;> split <;> omega

/-- **An instant is read back from its text.** -/
theorem parse_text {t : Instant} (h : t.InCalendar) : parse t.text = .ok t := by
  obtain ⟨⟨⟨month_low, month_high, day_low, day_high⟩, second, -⟩, year⟩ := id h
  have long : t.date.day ≤ 31 := Nat.le_trans day_high (monthLength_le _ _)
  have hour : t.second / 3600 ≤ 23 := by
    have : dayLength = 86400 := rfl
    omega
  have minute : t.second / 60 % 60 ≤ 59 := by omega
  rw [parse, text, String.toList_ofList, chars]
  generalize told : (if 1000000000 ≤ t.nano then 1 else 0) = leap
  obtain ⟨shown, read, covered, places⟩ := leap_of_isValid h.valid told
  have clock : t.second / 3600 * 3600 + t.second / 60 % 60 * 60 + (t.second % 60 + leap - leap) =
      t.second := by
    rw [Nat.add_sub_cancel]
    omega
  rw [ofChars_parts year ⟨month_low, month_high⟩ ⟨day_low, long⟩ hour minute shown places, read,
    clock, Nat.add_sub_of_le covered]
  exact ofLocal_zero h

end SessionWatch.Instant
