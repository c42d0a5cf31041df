/-
# What words are filled in with

A word in which every character is quoted or means nothing to a shell is taken
as it is: nothing is put in the place of a part of it, it is not cut, and it is
no pattern for names of files. The shell itself does not change meanwhile.

Key definitions: `Shell.Piece.IsPlain`, `Shell.Word.IsPlain`.
Key theorems: `Shell.expand_plain`, `Shell.fieldsOf_plain`, `Shell.settingsOf_plain`.
-/
import SessionWatch.Proofs.Shell.Quotation
import SessionWatch.Shell.Run

namespace SessionWatch.Shell

/-- A quoted character, quotes around nothing, or a character without a meaning of its own. -/
def Piece.IsPlain : Piece → Prop
  | .char c quoted => quoted = true ∨ isOrdinary c = true
  | .nothing => True
  | .parameter _ _ | .output _ _ => False

/-- A word that stands for its characters. -/
structure Word.IsPlain (w : Word) : Prop where
  pieces : ∀ p ∈ w, p.IsPlain
  ne_nil : w ≠ []

/-- The text of a word that stands for its characters. -/
def Word.text (w : Word) : String := String.ofList (w.filterMap Piece.char?)

/-- What a piece is filled in with if nothing is put in its place. -/
def Piece.cell : Piece → Cell
  | .char c quoted => .char c quoted false
  | .nothing | .parameter _ _ | .output _ _ => .quotes

theorem Piece.IsQuoted.isPlain {p : Piece} (h : p.IsQuoted) : p.IsPlain := by
  cases p with
  | char c quoted => exact .inl h
  | nothing => trivial
  | parameter => cases h
  | output => cases h

theorem Piece.IsPlain.isFixed {p : Piece} (h : p.IsPlain) : p.isFixed = true := by
  cases p <;> first | rfl | cases h

namespace Word

variable {w : Word}

theorem isPlain_quoted (s : String) : (quoted s).IsPlain where
  pieces p hp := (isQuoted_quoted s p hp).isPlain
  ne_nil := quoted_ne_nil s

theorem isPlain_bare {s : String} (h : IsBare s) : (bare s).IsPlain where
  pieces p hp := by
    obtain ⟨c, hc, rfl⟩ := List.mem_map.mp hp
    exact .inr (List.all_eq_true.mp h.2 c hc)
  ne_nil := by simpa [bare] using h.1

theorem IsPlain.text?_eq (h : w.IsPlain) : w.text? = some w.text := by
  rw [text?, if_pos (List.all_eq_true.mpr fun p hp => (h.pieces p hp).isFixed), text]

@[simp] theorem text_quoted (s : String) : (quoted s).text = s := by
  rw [text, quoted, filterMap_quotedPieces, String.ofList_toList]

@[simp] theorem text_bare (s : String) : (bare s).text = s := by
  rw [text, bare, filterMap_bare, String.ofList_toList]

theorem IsPlain.homeAtFront (h : w.IsPlain) : homeAtFront w = w := by
  have first : ∀ rest, w ≠ .char '~' false :: rest := by
    rintro rest rfl
    have tilde : Piece.IsPlain (.char '~' false) := h.pieces _ List.mem_cons_self
    rcases tilde with h | h <;> cases h
  unfold Shell.homeAtFront
  split
  · exact absurd rfl (first _)
  · exact absurd rfl (first _)
  · rfl

end Word

/-! ### Cells -/

theorem fill_plain {p : Piece} (h : p.IsPlain) (depth : Nat) (s : State) :
    fill (depth + 1) p s = ([p.cell], s) := by
  cases p with
  | char c quoted => rw [fill]; rfl
  | nothing => rw [fill]; rfl
  | parameter => cases h
  | output => cases h

/-- What is collected from a list whose items leave everything else as it is. -/
theorem foldl_collect {α β σ : Type} {f : List β × σ → α → List β × σ} {g : α → β} {s : σ} :
    ∀ {xs : List α}, (∀ x ∈ xs, ∀ acc, f (acc, s) x = (g x :: acc, s)) → ∀ acc,
      xs.foldl f (acc, s) = ((xs.map g).reverse ++ acc, s)
  | [], _, _ => rfl
  | x :: xs, h, acc => by
    rw [List.forall_mem_cons] at h
    rw [List.foldl_cons, h.1 acc, foldl_collect h.2]
    simp

theorem flatten_map_singleton {α β : Type} (f : α → β) (xs : List α) :
    (xs.map fun x => [f x]).flatten = xs.map f := by
  rw [← List.flatMap_def, ← List.map_eq_flatMap]

/-- **A shell puts nothing in the place of a plain word.** -/
theorem expand_plain {w : Word} (h : w.IsPlain) (depth : Nat) {s : State} (on : s.isOn = true) :
    expand (depth + 2) w s = (w.map Piece.cell, s) := by
  rw [expand, foldl_collect (g := fun p => [p.cell])]
  · simp [flatten_map_singleton]
  · intro p hp acc
    simp only [on, if_true, fill_plain (h.pieces p hp)]

theorem text_cells (w : Word) : Cell.text (w.map Piece.cell) = w.text := by
  unfold Cell.text Word.text
  rw [List.filterMap_map]
  exact congrArg (fun f => String.ofList (w.filterMap f)) (funext fun p => by cases p <;> rfl)

/-! ### Fields -/

/-- The character of a piece, and whether it is quoted. -/
def Piece.mark? : Piece → Option (Char × Bool)
  | .char c quoted => some (c, quoted)
  | .nothing | .parameter _ _ | .output _ _ => none

/-- Pieces that are filled in as they are take part in the field that has begun. -/
theorem foldl_cut (separators : List Char) (done : List Field) : ∀ {w : Word}, w ≠ [] → ∀ field,
    (w.map Piece.cell).foldl (Cut.step separators) ⟨field, done, false⟩ =
      ⟨some ((w.filterMap Piece.mark?).reverse ++ field.getD []), done, false⟩
  | [p], _, field => by cases p <;> rfl
  | p :: q :: w, _, field => by
    have one : Cut.step separators ⟨field, done, false⟩ p.cell =
        ⟨some (([p].filterMap Piece.mark?).reverse ++ field.getD []), done, false⟩ := by
      cases p <;> rfl
    have parts : (p :: q :: w).filterMap Piece.mark? =
        [p].filterMap Piece.mark? ++ (q :: w).filterMap Piece.mark? :=
      List.filterMap_append (l := [p]) ..
    rw [List.map_cons, List.foldl_cons, one, foldl_cut separators done (List.cons_ne_nil q w),
      parts]
    simp

/-- Filled in as it is a word is one field. -/
theorem fields_cells (separators : String) {w : Word} (h : w ≠ []) :
    fields separators (w.map Piece.cell) = [w.filterMap Piece.mark?] := by
  unfold fields
  rw [show ({} : Cut) = ⟨none, [], false⟩ from rfl, foldl_cut _ _ h]
  simp [Cut.finish]

theorem text_marks (w : Word) : Field.text (w.filterMap Piece.mark?) = w.text := by
  unfold Field.text Word.text
  rw [List.map_filterMap]
  exact congrArg (fun f => String.ofList (w.filterMap f)) (funext fun p => by cases p <;> rfl)

theorem isPattern_marks {w : Word} (h : w.IsPlain) :
    Field.isPattern (w.filterMap Piece.mark?) = false := by
  rw [Field.isPattern, List.any_eq_false]
  rintro ⟨c, quoted⟩ hmem
  obtain ⟨p, hp, hmark⟩ := List.mem_filterMap.mp hmem
  have plain := h.pieces p hp
  cases p with
  | char c' quoted' =>
    cases hmark
    rcases plain with rfl | ordinary
    · simp
    · have other (d : Char) (hd : isOrdinary d = false) : c ≠ d := isOrdinary_ne ordinary hd
      simp [other '*' rfl, other '?' rfl, other '[' rfl]
  | nothing => cases hmark
  | parameter => cases hmark
  | output => cases hmark

/-- No file is looked for in the place of a plain word. -/
theorem paths_marks {w : Word} (h : w.IsPlain) (fs : Files) :
    Field.paths fs (w.filterMap Piece.mark?) = [w.text] := by
  rw [Field.paths, isPattern_marks h, text_marks]
  rfl

/-! ### Commands -/

/-- A word without an equals sign that is not quoted sets no variable. -/
theorem assignment?_eq_none {w : Word} (h : .char '=' false ∉ w) :
    Script.assignment? w = none := by
  unfold Script.assignment?
  dsimp only
  split
  · next heq _ => exact absurd (List.mem_of_mem_drop (heq ▸ List.mem_cons_self)) h
  · rfl

theorem assignment?_quoted (s : String) : Script.assignment? (Word.quoted s) = none :=
  assignment?_eq_none fun h => by cases Word.isQuoted_quoted s _ h

theorem assignment?_bare {s : String} (h : '=' ∉ s.toList) :
    Script.assignment? (Word.bare s) = none :=
  assignment?_eq_none fun hmem => by
    obtain ⟨c, hc, heq⟩ := List.mem_map.mp hmem
    cases heq
    exact h hc

/-- A name with an equals sign behind it, in front of a word, sets a variable to that word. -/
theorem assignment?_setting {name : String} {first : Char} (begins : name.toList.head? = some first)
    (start : isNameStart first = true) (chars : name.toList.all isNameChar = true)
    (value : Word) : Script.assignment? (Word.bare (name ++ "=") ++ value) = some (name, value) := by
  have parts : Word.bare (name ++ "=") ++ value = Word.bare name ++ .char '=' false :: value := by
    simp [Word.bare]
  have head : ∃ rest, Word.bare name = .char first false :: rest := by
    obtain ⟨cs, hcs⟩ := List.head?_eq_some_iff.mp begins
    exact ⟨cs.map (.char · false), by rw [Word.bare, hcs, List.map_cons]⟩
  have text : Word.text? (Word.bare name) = some name := by
    have fixed : ∀ p ∈ Word.bare name, p.isFixed = true := by
      intro p hp
      obtain ⟨c, -, rfl⟩ := List.mem_map.mp hp
      rfl
    rw [Word.text?, if_pos (List.all_eq_true.mpr fixed)]
    exact congrArg some (Word.text_bare name)
  obtain ⟨rest, cons⟩ := head
  rw [parts]
  unfold Script.assignment?
  rw [List.takeWhile_append_of_pos, List.takeWhile_cons_of_neg, List.append_nil]
  · simp only [List.drop_left, cons, if_pos start]
    rw [← cons, text]
    rfl
  · decide
  · intro p hp
    obtain ⟨c, hc, rfl⟩ := List.mem_map.mp hp
    exact List.all_eq_true.mp chars c hc

/-- A setting in front of words that set nothing is the only one. -/
theorem splitSettings_cons {w value : Word} {name : String} {ws : List Word}
    (h : Script.assignment? w = some (name, value))
    (free : ∀ w ∈ ws, Script.assignment? w = none) :
    splitSettings (w :: ws) = ([(name, value)], ws) := by
  have others : ws.filterMap Script.assignment? = [] := List.filterMap_eq_nil_iff.mpr free
  cases ws with
  | nil => simp [splitSettings, h]
  | cons v vs => simp [splitSettings, h, others, free v List.mem_cons_self]

theorem textOf_plain {w : Word} (h : w.IsPlain) (depth : Nat) {s : State} (on : s.isOn = true) :
    textOf (depth + 3) w s = (w.text, s) := by
  rw [textOf, h.homeAtFront, expand_plain h depth on]
  simp [text_cells]

/-- **A shell hands plain words to a command as they are.** -/
theorem fieldsOf_plain {ws : List Word} (h : ∀ w ∈ ws, w.IsPlain)
    (free : ∀ w ∈ ws, Script.assignment? w = none) (depth : Nat) (whole : Bool) {s : State}
    (on : s.isOn = true) : fieldsOf (depth + 3) whole ws s = (ws.map Word.text, s) := by
  rw [fieldsOf, foldl_collect (g := fun w => [w.text])]
  · simp [flatten_map_singleton]
  · intro w hw acc
    have plain := h w hw
    have none : (if whole then Script.assignment? w else none) = none := by simp [free w hw]
    simp [on, none, plain.homeAtFront, expand_plain plain depth on, fields_cells _ plain.ne_nil,
      paths_marks plain, text_marks]

/-- **A shell sets a variable to the text of a plain word.** -/
theorem settingsOf_plain {w : Word} (h : w.IsPlain) (name : String) (depth : Nat) {s : State}
    (on : s.isOn = true) :
    settingsOf (depth + 4) [(name, w)] s = ([(name, w.text)], s.set name w.text) := by
  rw [settingsOf]
  simp [textOf_plain h depth on, on]

end SessionWatch.Shell
