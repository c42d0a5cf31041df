/-
# The language of verdict lines

A verdict line is a word for a verdict, perhaps with a label before it and an
ending behind it. An output that is neither JSON nor has a brace in it is
decided by the first of its lines that is one.

Key definitions: `Verdict.Spelled`, `Verdict.Names`, `Verdict.IsLabel`,
`Verdict.IsEnding`, `Verdict.IsVerdictLine`.
Key theorems: `Verdict.ofLine?_iff`, `Verdict.ofOutput_by_lines`.
-/
import SessionWatch.Classifier.Verdict
import SessionWatch.Proofs.Text.Lines

namespace SessionWatch

namespace Verdict

open Text (isBlank dropBlanks trimChars)

/-! ### The language -/

/-- The characters spell a word that is given in capital letters; the case of ASCII letters does
not count. -/
def Spelled (word : String) (cs : List Char) : Prop := cs.map Char.toUpper = word.toList

/-- The characters are one of the words for the verdict. -/
def Names : Verdict → List Char → Prop
  | .waitingInput, cs => Spelled "WAITING_INPUT" cs ∨ Spelled "WAITING" cs
  | .idle, cs => Spelled "DONE" cs ∨ Spelled "IDLE" cs

/-- Nothing but blanks. -/
def Gap (cs : List Char) : Prop := ∀ c ∈ cs, isBlank c = true

/-- What may stand before a word. -/
inductive IsLabel : List Char → Prop where
  | none : IsLabel []
  | verdict {cs gap gap' : List Char} {mark : Char} (spelled : Spelled "VERDICT" cs) (blank : Gap gap)
      (marked : mark = ':' ∨ mark = '=') (blank' : Gap gap') : IsLabel (cs ++ gap ++ mark :: gap')

/-- What may stand behind a word. -/
inductive IsEnding : List Char → Prop where
  | none : IsEnding []
  | remark {gap remark : List Char} {mark first : Char} (blank : Gap gap)
      (marked : mark = '-' ∨ mark = ':') (apart : isBlank first = true) :
      IsEnding (gap ++ mark :: first :: remark)
  | parentheses {gap remark : List Char} (blank : Gap gap) (inside : ')' ∉ remark) :
      IsEnding (gap ++ '(' :: (remark ++ [')']))
  | mark {gap : List Char} {mark : Char} (blank : Gap gap)
      (marked : mark = '.' ∨ mark = '!' ∨ mark = '?') : IsEnding (gap ++ [mark])

/-- The characters are a verdict line. -/
def IsVerdictLine (v : Verdict) (cs : List Char) : Prop :=
  ∃ label word ending, cs = label ++ word ++ ending ∧ IsLabel label ∧ Names v word ∧ IsEnding ending

/-! ### Words -/

theorem afterWord?_eq_some_iff {word rest : List Char} : ∀ {cs : List Char},
    afterWord? word cs = some rest ↔ ∃ front, cs = front ++ rest ∧ front.map Char.toUpper = word := by
  induction word with
  | nil => intro cs; simp [afterWord?, eq_comm]
  | cons w word ih =>
    intro cs
    cases cs with
    | nil => simp [afterWord?]
    | cons c cs =>
      rw [afterWord?]
      split
      · next first =>
        rw [ih]
        constructor
        · rintro ⟨front, rfl, rfl⟩
          exact ⟨c :: front, rfl, by rw [List.map_cons, first]⟩
        · rintro ⟨_ | ⟨d, front⟩, split, spelled⟩
          · cases spelled
          · cases split
            cases spelled
            exact ⟨front, rfl, rfl⟩
      · next other =>
        refine iff_of_false nofun ?_
        rintro ⟨_ | ⟨d, front⟩, split, spelled⟩
        · cases spelled
        · cases split
          exact other (List.cons_eq_cons.mp spelled).1

/-- The words are told apart by their first letters, so far as they stand for other verdicts. -/
theorem words_head : ∀ w ∈ words, ∀ w' ∈ words, w.1.head? = w'.1.head? → w.2 = w'.2 := by decide

theorem names_iff {v : Verdict} {cs : List Char} :
    Names v cs ↔ (cs.map Char.toUpper, v) ∈ words := by
  cases v <;> simp [Names, Spelled, words]

theorem head?_of_spelled {front rest word : List Char} (spelled : front.map Char.toUpper = word)
    (filled : word ≠ []) : (front ++ rest).head?.map Char.toUpper = word.head? := by
  cases front with
  | nil => exact absurd spelled.symm filled
  | cons c front =>
    rw [← spelled]
    rfl

/-- **What stands behind the label is a word with an ending.** -/
theorem ofWord?_eq_some_iff {v : Verdict} {cs : List Char} : ofWord? cs = some v ↔
    ∃ word ending, cs = word ++ ending ∧ Names v word ∧ isEnding ending = true := by
  have filled : ∀ w ∈ words, w.1 ≠ [] := by decide
  constructor
  · intro h
    obtain ⟨w, mem, found⟩ := List.exists_of_findSome?_eq_some h
    dsimp only at found
    split at found
    · next ends =>
      cases found
      obtain ⟨ending, after, ends⟩ := (Option.any_eq_true _ _).mp ends
      obtain ⟨word, split, spelled⟩ := afterWord?_eq_some_iff.mp after
      exact ⟨word, ending, split, names_iff.mpr (spelled ▸ mem), ends⟩
    · cases found
  · rintro ⟨word, ending, split, names, ends⟩
    have mem := names_iff.mp names
    have after := afterWord?_eq_some_iff.mpr ⟨word, split, rfl⟩
    obtain ⟨v', found⟩ : ∃ v', ofWord? cs = some v' := by
      rw [← Option.isSome_iff_exists, ofWord?, List.findSome?_isSome_iff]
      exact ⟨_, mem, by simp [after, ends]⟩
    rw [found]
    -- another word with an ending would begin with the same letter
    obtain ⟨w, mem', found⟩ := List.exists_of_findSome?_eq_some found
    dsimp only at found
    split at found
    · next ends' =>
      cases found
      obtain ⟨ending', after', -⟩ := (Option.any_eq_true _ _).mp ends'
      obtain ⟨word', split', spelled'⟩ := afterWord?_eq_some_iff.mp after'
      refine congrArg some (words_head w mem' _ mem ?_)
      rw [← head?_of_spelled spelled' (filled w mem'), ← split', split]
      exact head?_of_spelled rfl (filled _ mem)
    · cases found

/-! ### Labels and endings -/

theorem ne_of_not_mem {c : Char} {cs : List Char} (bare : c ∉ cs) :
    ∀ d ∈ cs, decide (d ≠ c) = true :=
  fun _ hd => decide_eq_true fun same => bare (same ▸ hd)

section ends

variable {cs rest gap : List Char} {c : Char}

theorem dropBlanks_gap (blank : Gap gap) (shown : ∀ c ∈ rest.head?, isBlank c = false) :
    dropBlanks (gap ++ rest) = rest := by
  rw [Text.dropBlanks_append blank, Text.dropBlanks_eq_self shown]

/-- **What stands before a word is read as a label.** -/
theorem afterLabel?_eq_some_iff : afterLabel? cs = some rest ↔
    (∀ c ∈ rest.head?, isBlank c = false) ∧
      ∃ label, cs = label ++ rest ∧ label ≠ [] ∧ IsLabel label := by
  constructor
  · intro h
    unfold afterLabel? at h
    cases hword : afterWord? "VERDICT".toList cs with
    | none =>
      rw [hword] at h
      cases h
    | some behind =>
      obtain ⟨word, split, spelled⟩ := afterWord?_eq_some_iff.mp hword
      obtain ⟨gap, blank, hbehind⟩ := Text.exists_blanks behind
      have labelled (mark : Char) (marked : mark = ':' ∨ mark = '=') (more : List Char)
          (hmark : dropBlanks behind = mark :: more) (last : dropBlanks more = rest) :
          (∀ c ∈ rest.head?, isBlank c = false) ∧
            ∃ label, cs = label ++ rest ∧ label ≠ [] ∧ IsLabel label := by
        obtain ⟨gap', blank', hmore⟩ := Text.exists_blanks more
        refine ⟨last ▸ Text.head?_dropBlanks more, word ++ gap ++ mark :: gap', ?_, by simp,
          .verdict spelled blank marked blank'⟩
        rw [split, hbehind, hmark, hmore, last]
        simp
      rw [hword, Option.map_some] at h
      split at h
      · next more hmark => exact labelled ':' (.inl rfl) more (Option.some.inj hmark) (Option.some.inj h)
      · next more hmark => exact labelled '=' (.inr rfl) more (Option.some.inj hmark) (Option.some.inj h)
      · cases h
  · rintro ⟨shown, label, rfl, filled, isLabel⟩
    cases isLabel with
    | none => exact absurd rfl filled
    | @verdict word gap gap' mark spelled blank marked blank' =>
      have word_read : afterWord? "VERDICT".toList (word ++ gap ++ mark :: gap' ++ rest) =
          some (gap ++ mark :: (gap' ++ rest)) :=
        afterWord?_eq_some_iff.mpr ⟨word, by simp, spelled⟩
      have mark_next : dropBlanks (gap ++ mark :: (gap' ++ rest)) = mark :: (gap' ++ rest) :=
        dropBlanks_gap blank (by rintro c ⟨⟩; rcases marked with rfl | rfl <;> decide)
      unfold afterLabel?
      rw [word_read, Option.map_some, mark_next]
      rcases marked with rfl | rfl <;> exact congrArg some (dropBlanks_gap blank' shown)

theorem isRemark_iff (line : '\n' ∉ cs) :
    isRemark cs = true ↔ ∃ first remark, cs = first :: remark ∧ isBlank first = true := by
  cases cs with
  | nil => simp [isRemark]
  | cons first remark =>
    have inside : '\n' ∉ dropBlanks remark := fun h =>
      line (List.mem_cons_of_mem _ ((List.dropWhile_suffix _).mem h))
    simp [isRemark, inside]

theorem parenthesized_iff : cs.dropWhile (· ≠ ')') = [')'] ↔
    ∃ remark, cs = remark ++ [')'] ∧ ')' ∉ remark := by
  constructor
  · intro h
    refine ⟨cs.takeWhile (· ≠ ')'), ?_, fun inside => ?_⟩
    · rw [← h, List.takeWhile_append_dropWhile]
    · simpa using List.mem_takeWhile_imp inside
  · rintro ⟨remark, rfl, inside⟩
    rw [List.dropWhile_append_of_pos (ne_of_not_mem inside)]
    rfl

/-- **What stands behind a word is read as an ending**, in a line without blanks at its end. -/
theorem isEnding_iff (line : '\n' ∉ cs) (trimmed : ∀ c ∈ cs.getLast?, isBlank c = false) :
    isEnding cs = true ↔ IsEnding cs := by
  constructor
  · intro h
    obtain ⟨gap, blank, split⟩ := Text.exists_blanks cs
    unfold isEnding at h
    generalize dropBlanks cs = behind at h split
    subst split
    split at h
    · -- a gap ends with a blank, if it is any
      rw [List.append_nil] at trimmed ⊢
      cases hlast : gap.getLast? with
      | none =>
        rw [List.getLast?_eq_none_iff.mp hlast]
        exact .none
      | some c =>
        have := trimmed c hlast
        rw [blank c (List.mem_of_getLast? hlast)] at this
        cases this
    · next rest =>
      obtain ⟨first, remark, rfl, apart⟩ := (isRemark_iff fun h => line (by simp [h])).mp h
      exact .remark blank (.inl rfl) apart
    · next rest =>
      obtain ⟨first, remark, rfl, apart⟩ := (isRemark_iff fun h => line (by simp [h])).mp h
      exact .remark blank (.inr rfl) apart
    · next rest =>
      obtain ⟨remark, rfl, inside⟩ := parenthesized_iff.mp (of_decide_eq_true h)
      exact .parentheses blank inside
    · exact .mark blank (.inl rfl)
    · exact .mark blank (.inr (.inl rfl))
    · exact .mark blank (.inr (.inr rfl))
    · cases h
  · intro h
    cases h with
    | none => rfl
    | @remark gap remark mark first blank marked apart =>
      have here : dropBlanks (gap ++ mark :: first :: remark) = mark :: first :: remark :=
        dropBlanks_gap blank (by rintro c ⟨⟩; rcases marked with rfl | rfl <;> decide)
      have ends : '\n' ∉ first :: remark := fun h => line (by simp_all)
      have remarked := (isRemark_iff ends).mpr ⟨first, remark, rfl, apart⟩
      unfold isEnding
      rw [here]
      rcases marked with rfl | rfl <;> exact remarked
    | @parentheses gap remark blank inside =>
      have here : dropBlanks (gap ++ '(' :: (remark ++ [')'])) = '(' :: (remark ++ [')']) :=
        dropBlanks_gap blank (by rintro c ⟨⟩; decide)
      unfold isEnding
      rw [here]
      exact decide_eq_true (parenthesized_iff.mpr ⟨remark, rfl, inside⟩)
    | @mark gap mark blank marked =>
      have here : dropBlanks (gap ++ [mark]) = [mark] :=
        dropBlanks_gap blank (by rintro c ⟨⟩; rcases marked with rfl | rfl | rfl <;> decide)
      unfold isEnding
      rw [here]
      rcases marked with rfl | rfl | rfl <;> rfl

end ends

/-! ### Lines -/

/-- What is no blank in capital letters is none. -/
theorem isBlank_of_toUpper {c : Char} (h : isBlank c.toUpper = false) : isBlank c = false := by
  unfold Char.toUpper at h
  split at h
  · next lower =>
    have above : 97 ≤ c.toNat := UInt32.le_iff_toNat_le.mp lower.1
    have below : c.toNat ≤ 122 := UInt32.le_iff_toNat_le.mp lower.2
    simp [isBlank, Text.blankRanges]
    omega
  · exact h

/-- The words begin with three letters. -/
theorem head?_of_names {v : Verdict} {word : List Char} (names : Names v word) (rest : List Char) :
    ∃ c more, word ++ rest = c :: more ∧ c.toUpper ∈ ['W', 'D', 'I'] := by
  have heads : ∀ w ∈ words, ∃ d ∈ w.1.head?, d ∈ ['W', 'D', 'I'] := by
    simp [words]
  obtain ⟨d, hd, letter⟩ := heads _ (names_iff.mp names)
  cases word with
  | nil => cases hd
  | cons c word =>
    cases hd
    exact ⟨c, word ++ rest, rfl, letter⟩

theorem head?_of_isVerdictLine {v : Verdict} {cs : List Char} (h : IsVerdictLine v cs) :
    ∃ c more, cs = c :: more ∧ c.toUpper ∈ ['V', 'W', 'D', 'I'] := by
  obtain ⟨label, word, ending, rfl, isLabel, names, -⟩ := h
  cases isLabel with
  | none =>
    obtain ⟨c, more, first, letter⟩ := head?_of_names names ending
    exact ⟨c, more, first, List.mem_cons_of_mem _ letter⟩
  | @verdict cs gap gap' mark spelled _ _ _ =>
    have first : (cs.map Char.toUpper).head? = some 'V' :=
      (congrArg List.head? spelled).trans (by decide)
    cases cs with
    | nil => cases first
    | cons c cs => exact ⟨c, _, rfl, by rw [Option.some.inj first]; exact List.mem_cons_self⟩

/-- **A line is read as a verdict exactly if it is in the language**, blanks at its ends aside. -/
theorem ofLine?_iff {v : Verdict} {line : List Char} (one : '\n' ∉ line) :
    ofLine? line = some v ↔ IsVerdictLine v (trimChars line) := by
  have within : '\n' ∉ trimChars line := fun h => one (Text.mem_of_mem_trimChars h)
  have trimmed := Text.getLast?_trimChars line
  unfold ofLine?
  dsimp only
  generalize trimChars line = cs at within trimmed
  -- an ending is at the end of the line, so it is in one line and has no blank at its end
  have ends {front ending : List Char} (split : cs = front ++ ending) :
      isEnding ending = true ↔ IsEnding ending := by
    refine isEnding_iff (fun h => within (split ▸ List.mem_append_right _ h)) fun c hc => ?_
    refine trimmed c ?_
    rw [split, List.getLast?_append, hc]
    rfl
  constructor
  · intro h
    cases hlabel : afterLabel? cs with
    | none =>
      rw [hlabel, Option.getD_none] at h
      obtain ⟨word, ending, split, names, isEnding⟩ := ofWord?_eq_some_iff.mp h
      exact ⟨[], word, ending, split, .none, names, (ends split).mp isEnding⟩
    | some rest =>
      rw [hlabel, Option.getD_some] at h
      obtain ⟨-, label, split, -, isLabel⟩ := afterLabel?_eq_some_iff.mp hlabel
      obtain ⟨word, ending, rfl, names, isEnding⟩ := ofWord?_eq_some_iff.mp h
      rw [← List.append_assoc] at split
      exact ⟨label, word, ending, split, isLabel, names, (ends split).mp isEnding⟩
  · rintro ⟨label, word, ending, split, isLabel, names, isEnding⟩
    obtain ⟨c, more, first, letter⟩ := head?_of_names names ending
    have apart : ∀ d ∈ ['W', 'D', 'I'], d ≠ 'V' ∧ isBlank d = false := by
      simp [isBlank, Text.blankRanges]
    obtain ⟨other, shown⟩ := apart _ letter
    have found : ofWord? (word ++ ending) = some v :=
      ofWord?_eq_some_iff.mpr ⟨word, ending, rfl, names, (ends split).mpr isEnding⟩
    rw [List.append_assoc] at split
    by_cases bare : label = []
    · rw [bare, List.nil_append] at split
      have unlabelled : afterLabel? cs = none := by
        unfold afterLabel?
        rw [split, first, show afterWord? "VERDICT".toList (c :: more) = none from if_neg other]
        rfl
      rw [unlabelled, Option.getD_none, split, found]
    · have labelled : afterLabel? cs = some (word ++ ending) := by
        refine afterLabel?_eq_some_iff.mpr ⟨?_, label, split, bare, isLabel⟩
        rw [first]
        rintro _ ⟨⟩
        exact isBlank_of_toUpper shown
      rw [labelled, Option.getD_some, found]

theorem ofLine?_eq_none_iff {line : List Char} (one : '\n' ∉ line) :
    ofLine? line = none ↔ ∀ v, ¬ IsVerdictLine v (trimChars line) := by
  simp only [Option.eq_none_iff_forall_ne_some, ne_eq, ofLine?_iff one]

/-! ### Outputs -/

theorem heedsNoBlanks_ofLine? : Text.HeedsNoBlanks ofLine? where
  trim l := by simp only [ofLine?, Text.trimChars_trimChars]
  nil := by decide

/-- Without an opening brace there is nothing between braces. -/
theorem braced?_eq_none {cs : List Char} (bare : '\x7b' ∉ cs) : braced? cs = none := by
  have nothing : cs.dropWhile (· ≠ '\x7b') = [] :=
    List.dropWhile_eq_nil_iff.mpr (ne_of_not_mem bare)
  unfold braced?
  rw [nothing]
  rfl

/-- **An output that has no braces and is not JSON is decided by its first verdict line.** There is
no answer in it exactly if it is blank, and no verdict exactly if it is not blank and none of its
lines is in the language. Otherwise the verdict is that of the first line that is. -/
theorem ofOutput_by_lines {output : String} (bare : '\x7b' ∉ output.toList)
    (notJson : Json.parse? (Text.utf8 (Text.trim output)) = none) :
    let lines := output.toList.splitOn '\n'
    let blank := ∀ c ∈ output.toList, isBlank c = true
    (ofOutput output = .error .blank ↔ blank) ∧
    (∀ v, ofOutput output = .ok v ↔ ∃ front line back, lines = front ++ line :: back ∧
      IsVerdictLine v (trimChars line) ∧
      ∀ l ∈ front, ∀ v', ¬ IsVerdictLine v' (trimChars l)) ∧
    (ofOutput output = .error (.noVerdict (Text.snippet (Text.trim output) snippetLength)) ↔
      ¬ blank ∧ ∀ l ∈ lines, ∀ v, ¬ IsVerdictLine v (trimChars l)) := by
  intro lines blank
  have empty : (trimChars output.toList).isEmpty = true ↔ blank := by
    rw [List.isEmpty_iff, Text.trimChars_eq_nil_iff, List.all_eq_true]
  have noJson : ofJsonIn? (trimChars output.toList) = none := by
    have inside : '\x7b' ∉ trimChars output.toList := fun h => bare (Text.mem_of_mem_trimChars h)
    unfold ofJsonIn?
    rw [show Json.parse? (Text.utf8 (String.ofList (trimChars output.toList))) = none from notJson,
      braced?_eq_none inside]
    rfl
  have search : (Text.cutLines (trimChars output.toList)).findSome? ofLine? =
      lines.findSome? ofLine? := by
    rw [Text.cutLines_eq_splitOn, Text.findSome?_lines_trimChars heedsNoBlanks_ofLine?]
  have one {l : List Char} (h : l ∈ lines) : '\n' ∉ l := Text.not_mem_of_mem_splitOn h
  have first {v : Verdict} : lines.findSome? ofLine? = some v ↔ ∃ front line back,
      lines = front ++ line :: back ∧ IsVerdictLine v (trimChars line) ∧
        ∀ l ∈ front, ∀ v', ¬ IsVerdictLine v' (trimChars l) := by
    rw [List.findSome?_eq_some_iff]
    refine exists_congr fun front => exists_congr fun line => exists_congr fun back =>
      and_congr_right fun split => and_congr (ofLine?_iff (one ?_)) ?_
    · rw [split]
      simp
    · refine forall₂_congr fun l hl => ofLine?_eq_none_iff (one ?_)
      rw [split]
      simp [hl]
  have none : lines.findSome? ofLine? = none ↔
      ∀ l ∈ lines, ∀ v, ¬ IsVerdictLine v (trimChars l) := by
    rw [List.findSome?_eq_none_iff]
    exact forall₂_congr fun l hl => ofLine?_eq_none_iff (one hl)
  simp only [← first, ← none, ← empty]
  unfold ofOutput
  dsimp only
  rw [noJson, search]
  by_cases h : (trimChars output.toList).isEmpty = true
  · have nowhere : lines.findSome? ofLine? = .none :=
      Text.findSome?_lines_blank heedsNoBlanks_ofLine? (empty.mp h)
    simp [h, nowhere]
  · rw [if_neg h]
    cases lines.findSome? ofLine? with
    | none => simp [h, Text.trim]
    | some v => simp [h]

/-- A line that is almost one, one with a label and a remark, and one that is not reached. -/
theorem ofOutput_by_lines_second :
    let output := "Done waiting.\r\n \tverdict = waiting_Input\u00a0( which branch? )\n\nIDLE"
    '\x7b' ∉ output.toList ∧ Json.parse? (Text.utf8 (Text.trim output)) = none ∧
      ofOutput output = .ok .waitingInput ∧
      ¬ ∃ v, IsVerdictLine v (trimChars "Done waiting.\r".toList) := by
  intro output
  have bare : '\x7b' ∉ output.toList := by decide
  have notJson : Json.parse? (Text.utf8 (Text.trim output)) = none := by
    rw [show Text.trim output = output by decide]
    rfl
  obtain ⟨-, found, -⟩ := ofOutput_by_lines bare notJson
  have almost : ∀ v, ¬ IsVerdictLine v (trimChars "Done waiting.\r".toList) :=
    (ofLine?_eq_none_iff (by decide)).mp (by decide)
  refine ⟨bare, notJson, (found .waitingInput).mpr
    ⟨["Done waiting.\r".toList], " \tverdict = waiting_Input\u00a0( which branch? )".toList,
      [[], "IDLE".toList], by decide, ?_, ?_⟩, not_exists.mpr almost⟩
  · exact (ofLine?_iff (by decide)).mp (by decide)
  · intro l hl
    rw [List.mem_singleton.mp hl]
    exact almost

end Verdict

end SessionWatch
