/-
# Quoted texts are words of a shell line

A shell that reads a quoted text reads a part of a word in which every
character is quoted, and the characters are those of the text. What stands
between two blanks that are not quoted themselves is one word, whatever the
text holds: none of its characters ends the word, begins an operator or asks
for something to be put in its place.

Key definitions: `Shell.Word.quoted`, `Shell.Word.bare`, `Shell.Spells`, `Shell.AtGap`.
Key theorems: `Shell.spells_quoteChars`, `Shell.Spells.between_blanks`.
-/
import SessionWatch.Shell.Quote
import SessionWatch.Shell.Token

namespace SessionWatch.Shell

/-! ### Words -/

/-- A quoted character, or quotes around nothing. -/
def Piece.IsQuoted : Piece → Prop
  | .char _ quoted => quoted = true
  | .nothing => True
  | .parameter _ _ | .output _ _ => False

/-- The pieces of a text that is being quoted; `fresh` if the quotes have just been opened. -/
def quotedPieces : (fresh : Bool) → List Char → Word
  | fresh, [] => if fresh then [.nothing] else []
  | fresh, c :: cs =>
    if c = '\'' then (if fresh then [.nothing] else []) ++ .char c true :: quotedPieces true cs
    else .char c true :: quotedPieces false cs

/-- The word that a quoted text is. -/
def Word.quoted (s : String) : Word := quotedPieces true s.toList

/-- The word that a text without special characters is. -/
def Word.bare (s : String) : Word := s.toList.map fun c => .char c false

/-- A character that stands for itself even where it is not quoted. -/
def isOrdinary (c : Char) : Bool := c.isAlphanum || c = '_' || c = '-' || c = '='

/-- A text that may stand in a line as it is. -/
def IsBare (s : String) : Prop := s.toList ≠ [] ∧ s.toList.all isOrdinary = true

instance (s : String) : Decidable (IsBare s) := inferInstanceAs (Decidable (_ ∧ _))

theorem isQuoted_quotedPieces (cs : List Char) (fresh : Bool) :
    ∀ p ∈ quotedPieces fresh cs, p.IsQuoted := by
  induction cs generalizing fresh with
  | nil => cases fresh <;> simp [quotedPieces, Piece.IsQuoted]
  | cons c cs ih =>
    have quoted : (Piece.char c true).IsQuoted := rfl
    unfold quotedPieces
    split
    · cases fresh
      · exact List.forall_mem_cons.mpr ⟨quoted, ih true⟩
      · exact List.forall_mem_cons.mpr ⟨trivial, List.forall_mem_cons.mpr ⟨quoted, ih true⟩⟩
    · exact List.forall_mem_cons.mpr ⟨quoted, ih false⟩

/-- Every part of a quoted text is quoted. -/
theorem Word.isQuoted_quoted (s : String) : ∀ p ∈ Word.quoted s, p.IsQuoted :=
  isQuoted_quotedPieces _ _

theorem filterMap_quotedPieces (cs : List Char) (fresh : Bool) :
    (quotedPieces fresh cs).filterMap Piece.char? = cs := by
  induction cs generalizing fresh with
  | nil => cases fresh <;> rfl
  | cons c cs ih =>
    unfold quotedPieces
    split <;> cases fresh <;> simp [List.filterMap_cons, Piece.char?, ih]

@[simp] theorem Word.quoted_ne_nil (s : String) : Word.quoted s ≠ [] := by
  unfold Word.quoted quotedPieces
  split
  · simp
  · split <;> simp

theorem filterMap_bare (cs : List Char) :
    (cs.map fun c => Piece.char c false).filterMap Piece.char? = cs := by
  induction cs with
  | nil => rfl
  | cons c cs ih => simp [Piece.char?, ih]

/-! ### What characters are read as -/

namespace Lexer

/-- Pieces put behind the word that is being read. -/
def extend (l : Lexer) (w : Word) : Lexer :=
  { l with word := some (w.reverse ++ l.word.getD []), mode := .bare }

theorem extend_append (l : Lexer) (v w : Word) : (l.extend v).extend w = l.extend (v ++ w) := by
  simp [extend]

/-- From between single quotes on, what stands for the characters up to the closing quote. -/
theorem foldl_single (cs : List Char) : ∀ (l : Lexer) (fresh : Bool), l.mode = .single fresh →
    (fresh = false → l.word.isSome) →
      (cs.flatMap quoteChar ++ ['\'']).foldl step l = l.extend (quotedPieces fresh cs) := by
  induction cs with
  | nil =>
    intro l fresh mode begun
    cases fresh with
    | true => simp [step, mode, quotedPieces, extend, push]
    | false =>
      obtain ⟨w, hw⟩ := Option.isSome_iff_exists.mp (begun rfl)
      simp [step, mode, quotedPieces, extend, hw]
  | cons c cs ih =>
    intro l fresh mode begun
    rw [List.flatMap_cons, List.append_assoc, List.foldl_append]
    by_cases hc : c = '\''
    · -- the quotes are closed, the quote is escaped, and they are opened again
      subst hc
      have closed : (quoteChar '\'').foldl step l =
          { l.extend ((if fresh then [.nothing] else []) ++ [.char '\'' true]) with
            mode := .single true } := by
        cases fresh with
        | true => simp [quoteChar, step, bareStep, mode, extend, push]
        | false => simp [quoteChar, step, bareStep, mode, extend, push]
      rw [closed, ih _ true rfl nofun, quotedPieces, if_pos rfl]
      simp [extend]
    · have kept : (quoteChar c).foldl step l =
          { l.extend [.char c true] with mode := .single false } := by
        simp [quoteChar, hc, step, mode, extend, push]
      rw [kept, ih _ false rfl fun _ => rfl, quotedPieces, if_neg hc]
      simp [extend]

end Lexer

/-- Outside of quotes the characters are read as these pieces of a word. -/
def Spells (cs : List Char) (w : Word) : Prop :=
  ∀ l : Lexer, l.mode = .bare → l.context = .script → cs.foldl Lexer.step l = l.extend w

theorem Spells.append {cs ds : List Char} {v w : Word} (h : Spells cs v) (h' : Spells ds w) :
    Spells (cs ++ ds) (v ++ w) := by
  intro l mode context
  rw [List.foldl_append, h l mode context, h' (l.extend v) rfl context, Lexer.extend_append]

/-- **A quoted text is read as its characters, all of them quoted.** -/
theorem spells_quoteChars (s : String) : Spells (quoteChars s.toList) (Word.quoted s) := by
  intro l mode _
  have opened : l.step '\'' = { l with mode := .single true } := by
    simp [Lexer.step, Lexer.bareStep, mode]
  rw [quoteChars, List.cons_append, List.foldl_cons, opened,
    Lexer.foldl_single _ _ true rfl nofun]
  rfl

/-- Ordinary characters are none of those that a shell looks for. -/
theorem isOrdinary_ne {c : Char} (h : isOrdinary c = true) {d : Char}
    (hd : isOrdinary d = false) : c ≠ d := by
  rintro rfl
  rw [h] at hd
  cases hd

theorem Lexer.step_ordinary {l : Lexer} {c : Char} (mode : l.mode = .bare)
    (context : l.context = .script) (h : isOrdinary c = true) : l.step c = l.extend [.char c false] := by
  have other (d : Char) (hd : isOrdinary d = false) : c ≠ d := isOrdinary_ne h hd
  have operator : isOperatorChar c = false := by
    have none : "&|;<>()".toList.any isOrdinary = false := by decide
    rw [isOperatorChar, List.contains_eq_mem, decide_eq_false_iff_not]
    exact fun hmem => List.any_eq_false.mp none c hmem h
  simp [step, mode, bareStep, context, operator, other '\'' rfl, other '"' rfl, other '\\' rfl,
    other '$' rfl, other '\x60' rfl, other ' ' rfl, other '\t' rfl, other '\n' rfl, other '#' rfl,
    extend, push]

theorem spells_ordinary : ∀ {cs : List Char}, cs ≠ [] → (cs.all isOrdinary = true) →
    Spells cs (cs.map fun c => .char c false)
  | [c], _, h => fun l mode context => by
    rw [List.all_cons, Bool.and_eq_true] at h
    exact Lexer.step_ordinary mode context h.1
  | c :: d :: cs, _, h => by
    rw [List.all_cons, Bool.and_eq_true] at h
    have first : Spells [c] [.char c false] := fun l mode context =>
      Lexer.step_ordinary mode context h.1
    exact first.append (spells_ordinary (List.cons_ne_nil d cs) h.2)

/-- A text of ordinary characters is read as itself. -/
theorem spells_bare {s : String} (h : IsBare s) : Spells s.toList (Word.bare s) :=
  spells_ordinary h.1 h.2

/-! ### Words between blanks -/

namespace Lexer

theorem context_endWord (l : Lexer) : l.endWord.context = l.context := by
  unfold endWord
  split <;> rfl

theorem context_endNumber (l : Lexer) (c : Char) : (l.endNumber c).context = l.context := by
  unfold endNumber
  split
  · split
    · rfl
    · exact l.context_endWord
  · exact l.context_endWord

theorem context_bareStep (l : Lexer) (c : Char) : (l.bareStep c).context = l.context := by
  unfold bareStep
  repeat' split
  all_goals first
    | rfl
    | exact l.context_endWord
    | exact l.context_endNumber c

theorem context_doubleStep (l : Lexer) (fresh : Bool) (c : Char) :
    (l.doubleStep fresh c).context = l.context := by
  unfold doubleStep
  repeat' split
  all_goals rfl

theorem context_resume (l : Lexer) (quoted : Bool) (c : Char) :
    (l.resume quoted c).context = l.context := by
  unfold resume
  split
  · exact l.context_doubleStep false c
  · exact l.context_bareStep c

theorem context_lineStep (l : Lexer) (line acc : List Char) :
    (l.lineStep line acc).context = l.context := by
  unfold lineStep
  dsimp only
  repeat' split
  all_goals rfl

/-- No character changes where the text stands that is read. -/
theorem context_step (l : Lexer) (c : Char) : (l.step c).context = l.context := by
  unfold step
  dsimp only
  repeat' split
  all_goals first
    | rfl
    | exact l.context_bareStep c
    | exact l.context_doubleStep _ c
    | exact context_resume _ _ c
    | exact context_bareStep _ c
    | exact l.context_lineStep _ _

theorem context_foldl (cs : List Char) (l : Lexer) : (cs.foldl step l).context = l.context := by
  induction cs generalizing l with
  | nil => rfl
  | cons c cs ih => rw [List.foldl_cons, ih, context_step]

theorem step_blank (l : Lexer) {b : Char} (blank : b = ' ' ∨ b = '\t')
    (mode : l.mode = .bare) (context : l.context = .script) :
    l.step b = { l.endWord with mode := .bare } := by
  have no : ∀ d, d ∈ ['\'', '"', '\\', '$', '\x60'] → b ≠ d := by
    rcases blank with rfl | rfl <;> simp
  simp [step, mode, bareStep, context, blank, no]

end Lexer

theorem Spells.up_to_blank {cs : List Char} {w : Word} (h : Spells cs w) {l : Lexer}
    (mode : l.mode = .bare) (context : l.context = .script) {b : Char}
    (blank : b = ' ' ∨ b = '\t') :
    (cs ++ [b]).foldl Lexer.step l = { (l.extend w).endWord with mode := .bare } := by
  rw [List.foldl_append, h l mode context]
  exact Lexer.step_blank (l.extend w) blank rfl context

/-- Behind these characters nothing is open and no word has begun, as behind a blank that is not
quoted. -/
structure AtGap (cs : List Char) : Prop where
  mode : (cs.foldl Lexer.step {}).mode = .bare
  word : (cs.foldl Lexer.step {}).word = none

/-- A blank outside of quotes leaves a gap. -/
theorem atGap_blank {cs : List Char} (mode : (cs.foldl Lexer.step {}).mode = .bare) {b : Char}
    (blank : b = ' ' ∨ b = '\t') : AtGap (cs ++ [b]) := by
  have read : (cs ++ [b]).foldl Lexer.step {} =
      { (cs.foldl Lexer.step {}).endWord with mode := .bare } := by
    rw [List.foldl_append]
    exact Lexer.step_blank _ blank mode (Lexer.context_foldl cs {})
  refine ⟨by rw [read], ?_⟩
  rw [read]
  generalize cs.foldl Lexer.step {} = l
  unfold Lexer.endWord
  split
  · assumption
  · rfl

/-- **What is spelt between two blanks is one word.** -/
theorem Spells.between_blanks {before cs : List Char} {w : Word} (h : Spells cs w)
    (gap : AtGap before) {b : Char} (blank : b = ' ' ∨ b = '\t') :
    ((before ++ cs ++ [b]).foldl Lexer.step {}).done =
      .word w :: (before.foldl Lexer.step {}).done := by
  rw [List.append_assoc, List.foldl_append,
    h.up_to_blank gap.mode (Lexer.context_foldl before {}) blank]
  simp [Lexer.endWord, Lexer.extend, gap.word]

/-- Behind a word and a blank there is a gap again. -/
theorem Spells.atGap {before cs : List Char} {w : Word} (h : Spells cs w) (gap : AtGap before)
    {b : Char} (blank : b = ' ' ∨ b = '\t') : AtGap (before ++ cs ++ [b]) := by
  refine atGap_blank ?_ blank
  rw [List.foldl_append, h _ gap.mode (Lexer.context_foldl before {})]
  rfl

end SessionWatch.Shell
