/-
# The lines of a text

A text is cut into lines at its line feeds. Blanks at the ends of a text add
blank lines and make lines longer, but add nothing to what is found by a search
that does not heed blanks at the ends of lines.

Key definitions: `Text.HeedsNoBlanks`.
Key theorems: `Text.line_induction`, `Text.cutLines_eq_splitOn`,
`Text.findSome?_lines_trimChars`.
-/
import SessionWatch.Proofs.Text.Trim

namespace SessionWatch.Text

/-- **A text is a line, or a line with a text behind it.** -/
theorem line_induction {P : List Char → Prop} (last : ∀ l, '\n' ∉ l → P l)
    (more : ∀ l cs, '\n' ∉ l → P cs → P (l ++ '\n' :: cs)) (cs : List Char) : P cs := by
  by_cases h : '\n' ∈ cs
  · obtain ⟨l, rest, split, apart⟩ := List.eq_append_cons_of_mem h
    have shorter : rest.length < cs.length := by
      rw [split, List.length_append, List.length_cons]
      omega
    rw [split]
    exact more l rest apart (line_induction last more rest)
  · exact last cs h
termination_by cs.length

theorem not_mem_of_mem_splitOn {l cs : List Char} (h : l ∈ cs.splitOn '\n') : '\n' ∉ l := by
  induction cs using line_induction with
  | last l' one =>
    rw [List.splitOn_eq_singleton one, List.mem_singleton] at h
    rwa [h]
  | more l' cs one ih =>
    rw [List.splitOn_append_cons_self_of_not_mem one] at h
    rcases List.mem_cons.mp h with rfl | h
    · exact one
    · exact ih h

/-! ### Cutting -/

/-- A text is cut from the front, with the lines that are done and the one that is begun. -/
def cutStep (done : List (List Char) × List Char) (c : Char) : List (List Char) × List Char :=
  if c = '\n' then (done.2.reverse :: done.1, []) else (done.1, c :: done.2)

theorem foldl_cutStep_line (done : List (List Char)) {l : List Char} (one : '\n' ∉ l) :
    ∀ cur, l.foldl cutStep (done, cur) = (done, l.reverse ++ cur) := by
  induction l with
  | nil => exact fun _ => rfl
  | cons c l ih =>
    intro cur
    obtain ⟨first, rest⟩ := not_or.mp (fun h => one (List.mem_cons.mpr h))
    rw [List.foldl_cons, cutStep, if_neg (Ne.symm first), ih rest]
    simp

/-- **A text is cut at its line feeds.** -/
theorem cutLines_eq_splitOn (cs : List Char) : cutLines cs = cs.splitOn '\n' := by
  suffices h : ∀ done : List (List Char),
      ((cs.foldl cutStep (done, [])).2.reverse :: (cs.foldl cutStep (done, [])).1).reverse =
        done.reverse ++ cs.splitOn '\n' from h []
  induction cs using line_induction with
  | last l one =>
    intro done
    rw [foldl_cutStep_line done one, List.splitOn_eq_singleton one]
    simp
  | more l cs one ih =>
    intro done
    rw [List.foldl_append, foldl_cutStep_line done one, List.foldl_cons, cutStep, if_pos rfl, ih,
      List.splitOn_append_cons_self_of_not_mem one]
    simp

/-! ### Searching -/

section search

variable {β : Type} {f : List Char → Option β}

/-- Blanks at the ends of a line make no difference, and a blank line is no find. -/
structure HeedsNoBlanks (f : List Char → Option β) : Prop where
  trim : ∀ l, f (trimChars l) = f l
  nil : f [] = none

variable (h : HeedsNoBlanks f)

include h

theorem HeedsNoBlanks.blank {l : List Char} (blank : ∀ c ∈ l, isBlank c = true) : f l = none := by
  rw [← h.trim, trimChars_of_blank blank, h.nil]

theorem HeedsNoBlanks.before {pre l : List Char} (blank : ∀ c ∈ pre, isBlank c = true) :
    f (pre ++ l) = f l := by
  rw [← h.trim, trimChars_blanks_append blank, h.trim]

theorem HeedsNoBlanks.after {l post : List Char} (blank : ∀ c ∈ post, isBlank c = true) :
    f (l ++ post) = f l := by
  rw [← h.trim, trimChars_append_blanks blank, h.trim]

/-- There is nothing to find among blanks. -/
theorem findSome?_lines_blank {cs : List Char} (blank : ∀ c ∈ cs, isBlank c = true) :
    (cs.splitOn '\n').findSome? f = none := by
  induction cs using line_induction with
  | last l one =>
    rw [List.splitOn_eq_singleton one, List.findSome?_singleton, h.blank blank]
  | more l cs one ih =>
    rw [List.splitOn_append_cons_self_of_not_mem one, List.findSome?_cons,
      h.blank fun c hc => blank c (List.mem_append_left _ hc)]
    exact ih fun c hc => blank c (List.mem_append_right _ (List.mem_cons_of_mem _ hc))

theorem findSome?_lines_before {pre : List Char} (blank : ∀ c ∈ pre, isBlank c = true)
    (cs : List Char) : ((pre ++ cs).splitOn '\n').findSome? f = (cs.splitOn '\n').findSome? f := by
  induction pre using line_induction with
  | last pre one =>
    induction cs using line_induction with
    | last l only =>
      rw [List.splitOn_eq_singleton only, List.splitOn_eq_singleton (by simp [one, only]),
        List.findSome?_singleton, List.findSome?_singleton, h.before blank]
    | more l cs only _ =>
      rw [← List.append_assoc, List.splitOn_append_cons_self_of_not_mem (by simp [one, only]),
        List.splitOn_append_cons_self_of_not_mem only, List.findSome?_cons, List.findSome?_cons,
        h.before blank]
  | more l pre one ih =>
    rw [List.append_assoc, List.cons_append, List.splitOn_append_cons_self_of_not_mem one,
      List.findSome?_cons, h.blank fun c hc => blank c (List.mem_append_left _ hc)]
    exact ih fun c hc => blank c (List.mem_append_right _ (List.mem_cons_of_mem _ hc))

theorem findSome?_lines_after (cs : List Char) {post : List Char}
    (blank : ∀ c ∈ post, isBlank c = true) :
    ((cs ++ post).splitOn '\n').findSome? f = (cs.splitOn '\n').findSome? f := by
  induction cs using line_induction with
  | last l one =>
    rw [List.splitOn_eq_singleton one, List.findSome?_singleton]
    induction post using line_induction with
    | last post only =>
      rw [List.splitOn_eq_singleton (by simp [one, only]), List.findSome?_singleton, h.after blank]
    | more post rest only _ =>
      have behind : (rest.splitOn '\n').findSome? f = none := findSome?_lines_blank h
        fun c hc => blank c (List.mem_append_right _ (List.mem_cons_of_mem _ hc))
      rw [← List.append_assoc, List.splitOn_append_cons_self_of_not_mem (by simp [one, only]),
        List.findSome?_cons, behind, h.after fun c hc => blank c (List.mem_append_left _ hc)]
      cases f l <;> rfl
  | more l cs one ih =>
    rw [List.append_assoc, List.cons_append, List.splitOn_append_cons_self_of_not_mem one,
      List.splitOn_append_cons_self_of_not_mem one, List.findSome?_cons, List.findSome?_cons, ih]

/-- **What is found among the lines of a text without the blanks around it is what is found among
its own lines.** -/
theorem findSome?_lines_trimChars (cs : List Char) :
    ((trimChars cs).splitOn '\n').findSome? f = (cs.splitOn '\n').findSome? f := by
  obtain ⟨pre, blank, hcs⟩ := exists_blanks cs
  calc ((trimChars cs).splitOn '\n').findSome? f
      = ((trimChars cs ++ trailing cs).splitOn '\n').findSome? f :=
        (findSome?_lines_after h _ (isBlank_trailing cs)).symm
    _ = ((dropBlanks cs).splitOn '\n').findSome? f := by rw [trimChars_append_trailing]
    _ = ((pre ++ dropBlanks cs).splitOn '\n').findSome? f :=
        (findSome?_lines_before h blank _).symm
    _ = (cs.splitOn '\n').findSome? f := by rw [← hcs]

end search

end SessionWatch.Text
