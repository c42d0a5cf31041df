/-
# The order of instants

Instants are compared by their year, month, day, second and nanosecond, so
they are in the order of the words of these five numbers, and what holds of
that order holds of theirs.

Key definitions: `Instant.word`.
Key theorems: `Instant.lt_iff_word`, `Instant.le_iff_word`,
`Instant.word_injective`.
-/
import Mathlib.Data.Prod.Lex
import SessionWatch.Time.Instant

namespace SessionWatch.Instant

/-- The numbers of an instant, from the year down. -/
def word (t : Instant) : ℤ ×ₗ ℕ ×ₗ ℕ ×ₗ ℕ ×ₗ ℕ :=
  toLex (t.date.year, toLex (t.date.month, toLex (t.date.day, toLex (t.second, t.nano))))

theorem word_injective : Function.Injective word := by
  rintro ⟨⟨year, month, day⟩, second, nano⟩ ⟨⟨year', month', day'⟩, second', nano'⟩ h
  simpa [word, and_assoc] using h

/-- **Instants are compared as their words are.** -/
theorem lt_iff_word {t u : Instant} : t.lt u = true ↔ t.word < u.word := by
  obtain ⟨⟨year, month, day⟩, second, nano⟩ := t
  obtain ⟨⟨year', month', day'⟩, second', nano'⟩ := u
  simp only [lt, Date.lt, word, Prod.Lex.toLex_lt_toLex, Date.mk.injEq, Bool.or_eq_true,
    Bool.and_eq_true, decide_eq_true_eq]
  grind

theorem le_iff_word {t u : Instant} : t.le u = true ↔ t.word ≤ u.word := by
  rw [le, Bool.not_eq_true', ← Bool.not_eq_true, lt_iff_word, not_lt]

theorem le_refl (t : Instant) : t.le t = true := le_iff_word.mpr le_rfl

theorem le_trans {t u v : Instant} (h : t.le u = true) (h' : u.le v = true) : t.le v = true :=
  le_iff_word.mpr ((le_iff_word.mp h).trans (le_iff_word.mp h'))

end SessionWatch.Instant
