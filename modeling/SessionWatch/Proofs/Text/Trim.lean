/-
# Trimming and cutting

A text is trimmed by taking the blanks off its ends, and cut by keeping its
last characters. Both orders of doing so give the same only if the cut is
harmless: either nothing but blanks is cut off at the front, or what is kept
has no blanks at its ends to be trimmed.

Key theorems: `Text.trimChars_blanks_append`, `Text.trimChars_append_blanks`,
`Text.trimChars_trimChars`, `Text.trimChars_eq_self`, `Text.trimChars_tailChars_eq_iff`,
`Text.trim_tail_eq_iff`.
-/
import Mathlib.Data.List.DropRight
import SessionWatch.Text.Blank
import SessionWatch.Text.Tail

namespace SessionWatch.Text

variable {cs pre post : List Char} {n : Nat}

/-! ### Cutting -/

theorem tailChars_of_le (h : cs.length ≤ n) : tailChars cs n = cs := by
  rw [tailChars, Nat.sub_eq_zero_of_le h, List.drop_zero]

@[simp] theorem tailChars_zero (cs : List Char) : tailChars cs 0 = [] := by
  simp [tailChars]

/-- A cut within the second part keeps nothing of the first. -/
theorem tailChars_append_of_le (h : n ≤ post.length) :
    tailChars (pre ++ post) n = tailChars post n := by
  have hlen : (pre ++ post).length - n = pre.length + (post.length - n) := by
    rw [List.length_append]
    omega
  rw [tailChars, tailChars, hlen, List.drop_length_add_append]

/-- A cut within the first part keeps all of the second. -/
theorem tailChars_append_of_ge (h : post.length ≤ n) :
    tailChars (pre ++ post) n = tailChars pre (n - post.length) ++ post := by
  have hlen : (pre ++ post).length - n = pre.length - (n - post.length) := by
    rw [List.length_append]
    omega
  rw [tailChars, tailChars, hlen, List.drop_append_of_le_length (by omega)]

/-! ### Trimming -/

/-- The blanks that trimming takes off the end. -/
def trailing (cs : List Char) : List Char := (dropBlanks cs).rtakeWhile isBlank

theorem trimChars_append_trailing (cs : List Char) :
    trimChars cs ++ trailing cs = dropBlanks cs :=
  List.rdropWhile_append_rtakeWhile

theorem isBlank_trailing (cs : List Char) : ∀ c ∈ trailing cs, isBlank c = true := fun _ hc =>
  List.mem_rtakeWhile_imp hc

theorem dropBlanks_append (h : ∀ c ∈ pre, isBlank c = true) :
    dropBlanks (pre ++ cs) = dropBlanks cs :=
  List.dropWhile_append_of_pos h

theorem trimChars_blanks_append (h : ∀ c ∈ pre, isBlank c = true) :
    trimChars (pre ++ cs) = trimChars cs := by
  rw [trimChars, dropBlanks_append h, trimChars]

theorem trimChars_of_blank (h : ∀ c ∈ cs, isBlank c = true) : trimChars cs = [] :=
  trimChars_eq_nil_iff.mpr (List.all_eq_true.mpr h)

theorem trimChars_append_blanks (h : ∀ c ∈ post, isBlank c = true) :
    trimChars (cs ++ post) = trimChars cs := by
  by_cases hc : ∀ c ∈ cs, isBlank c = true
  · rw [trimChars_of_blank hc, trimChars_blanks_append hc, trimChars_of_blank h]
  · have hne : dropBlanks (cs ++ post) = dropBlanks cs ++ post := by
      refine (List.dropWhile_append ..).trans (if_neg fun hnil => ?_)
      exact hc (List.all_eq_true.mp (dropBlanks_eq_nil_iff.mp (List.isEmpty_iff.mp hnil)))
    have hrev : ∀ c ∈ post.reverse, isBlank c = true := fun c hm => h c (List.mem_reverse.mp hm)
    rw [trimChars, hne, List.reverse_append, dropBlanks_append hrev, trimChars]

/-- A text is what is left when it is trimmed, between blanks. -/
theorem exists_blanks (cs : List Char) : ∃ pre, (∀ c ∈ pre, isBlank c = true) ∧
    cs = pre ++ dropBlanks cs :=
  ⟨cs.takeWhile isBlank, fun _ hc => List.mem_takeWhile_imp hc,
    List.takeWhile_append_dropWhile.symm⟩

@[simp] theorem trimChars_trimChars (cs : List Char) : trimChars (trimChars cs) = trimChars cs := by
  obtain ⟨pre, hpre, hcs⟩ := exists_blanks cs
  calc trimChars (trimChars cs)
      = trimChars (trimChars cs ++ trailing cs) :=
        (trimChars_append_blanks (isBlank_trailing cs)).symm
    _ = trimChars (pre ++ dropBlanks cs) := by
      rw [trimChars_append_trailing, trimChars_blanks_append hpre]
    _ = trimChars cs := by rw [← hcs]

theorem dropBlanks_eq_self (first : ∀ c ∈ cs.head?, isBlank c = false) : dropBlanks cs = cs := by
  cases cs with
  | nil => rfl
  | cons c cs => exact List.dropWhile_cons_of_neg (by simp [first c rfl])

theorem head?_dropBlanks (cs : List Char) : ∀ c ∈ (dropBlanks cs).head?, isBlank c = false := by
  intro c hc
  have first := List.head?_dropWhile_not isBlank cs
  rw [show (cs.dropWhile isBlank).head? = some c from hc] at first
  exact first

/-- A text without blanks at its ends is left as it is. -/
theorem trimChars_eq_self (first : ∀ c ∈ cs.head?, isBlank c = false)
    (last : ∀ c ∈ cs.getLast?, isBlank c = false) : trimChars cs = cs := by
  rw [trimChars, dropBlanks_eq_self first, dropBlanks_eq_self (by rwa [List.head?_reverse]),
    List.reverse_reverse]

theorem getLast?_trimChars (cs : List Char) : ∀ c ∈ (trimChars cs).getLast?, isBlank c = false := by
  intro c hc
  rw [trimChars, List.getLast?_reverse] at hc
  exact head?_dropBlanks _ c hc

theorem mem_of_mem_trimChars {c : Char} (h : c ∈ trimChars cs) : c ∈ cs := by
  rw [trimChars, List.mem_reverse] at h
  exact (List.dropWhile_suffix _).mem (List.mem_reverse.mp ((List.dropWhile_suffix _).mem h))

theorem length_trimChars_le (cs : List Char) : (trimChars cs).length ≤ cs.length := by
  obtain ⟨pre, -, hcs⟩ := exists_blanks cs
  have hlen := congrArg List.length (trimChars_append_trailing cs)
  have hlen' := congrArg List.length hcs
  rw [List.length_append] at hlen hlen'
  omega

/-! ### Trimming after cutting -/

/-- Blanks at the end use up what a cut keeps. -/
theorem length_trimChars_tailChars_le (cs : List Char) (h : ∀ c ∈ post, isBlank c = true) :
    (trimChars (tailChars (cs ++ post) n)).length ≤ n - post.length := by
  by_cases hn : n ≤ post.length
  · have hblank : ∀ c ∈ tailChars post n, isBlank c = true := fun c hc =>
      h c ((tailChars_isSuffix post n).subset hc)
    rw [tailChars_append_of_le hn, trimChars_of_blank hblank]
    exact Nat.zero_le _
  · rw [tailChars_append_of_ge (by omega), trimChars_append_blanks h]
    refine Nat.le_trans (length_trimChars_le _) ?_
    rw [length_tailChars]
    exact Nat.min_le_left _ _

/-- A cut that takes off nothing but blanks does not matter. -/
theorem trimChars_tailChars_of_le (h : (dropBlanks cs).length ≤ n) :
    trimChars (tailChars cs n) = trimChars cs := by
  obtain ⟨pre, hpre, hcs⟩ := exists_blanks cs
  have hkept : ∀ c ∈ tailChars pre (n - (dropBlanks cs).length), isBlank c = true := fun c hc =>
    hpre c ((tailChars_isSuffix pre _).subset hc)
  calc trimChars (tailChars cs n)
      = trimChars (tailChars (pre ++ dropBlanks cs) n) := by rw [← hcs]
    _ = trimChars (dropBlanks cs) := by
      rw [tailChars_append_of_ge h, trimChars_blanks_append hkept]
    _ = trimChars (pre ++ dropBlanks cs) := (trimChars_blanks_append hpre).symm
    _ = trimChars cs := by rw [← hcs]

/-- **Cutting before trimming is trimming before cutting exactly if** only blanks are cut off, or
there is nothing left to trim. -/
theorem trimChars_tailChars_eq_iff (cs : List Char) (n : Nat) :
    trimChars (tailChars cs n) = tailChars (trimChars cs) n ↔
      (dropBlanks cs).length ≤ n ∨ trimChars (tailChars cs n) = tailChars cs n := by
  obtain ⟨pre, -, hcs⟩ := exists_blanks cs
  have hd := trimChars_append_trailing cs
  have hlen : (trimChars cs).length + (trailing cs).length = (dropBlanks cs).length := by
    rw [← hd, List.length_append]
  by_cases hle : (dropBlanks cs).length ≤ n
  · refine iff_of_true ?_ (.inl hle)
    rw [trimChars_tailChars_of_le hle, tailChars_of_le (by omega)]
  · rw [or_iff_right hle]
    have hcut : tailChars cs n = tailChars (trimChars cs ++ trailing cs) n := by
      rw [hd]
      conv_lhs => rw [hcs]
      exact tailChars_append_of_le (by omega)
    have hcore : (trimChars cs).length ≠ 0 := by
      intro h0
      have hnil := trimChars_eq_nil_iff.mp (List.length_eq_zero_iff.mp h0)
      rw [dropBlanks_eq_nil_iff.mpr hnil] at hle
      exact hle (Nat.zero_le _)
    have hshort := length_trimChars_tailChars_le (n := n) (trimChars cs) (isBlank_trailing cs)
    rw [← hcut] at hshort
    -- what is cut has no blanks at the end, or is empty
    have same (h : n = 0 ∨ (trailing cs).length = 0) :
        tailChars (trimChars cs) n = tailChars cs n := by
      rcases h with rfl | h0
      · rw [tailChars_zero, tailChars_zero]
      · rw [hcut, List.length_eq_zero_iff.mp h0, List.append_nil]
    constructor
    · intro h
      rw [h, length_tailChars] at hshort
      rw [h, same (by omega)]
    · intro h
      have hcslen := congrArg List.length hcs
      rw [List.length_append] at hcslen
      rw [h, length_tailChars] at hshort
      rw [h, same (by omega)]

/-! ### Texts -/

theorem toList_trim (s : String) : (trim s).toList = trimChars s.toList := by
  simp [trim]

@[simp] theorem trim_trim (s : String) : trim (trim s) = trim s := by
  rw [← String.toList_inj, toList_trim, toList_trim, trimChars_trimChars]

/-- A text that was cut is short enough once it is trimmed. -/
theorem tail_trim_tail (s : String) (n : Nat) : tail (trim (tail s n)) n = trim (tail s n) := by
  have hle : (trimChars (tailChars s.toList n)).length ≤ n := by
    refine Nat.le_trans (length_trimChars_le _) ?_
    rw [length_tailChars]
    exact Nat.min_le_left _ _
  rw [← String.toList_inj, toList_tail, toList_trim, toList_tail, tailChars_of_le hle]

theorem trim_tail_eq_iff (s : String) (n : Nat) :
    trim (tail s n) = tail (trim s) n ↔
      (dropBlanks s.toList).length ≤ n ∨ trim (tail s n) = tail s n := by
  rw [← String.toList_inj, ← String.toList_inj, toList_tail, toList_trim, toList_trim,
    toList_tail]
  exact trimChars_tailChars_eq_iff s.toList n

end SessionWatch.Text
