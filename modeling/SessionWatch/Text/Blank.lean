/-
# Blank characters

The characters with the Unicode property `White_Space`, and the text between
them: `Text.trim` takes them from both ends, `Text.cutLines` cuts a text at
line feeds.

Key definitions: `Text.isBlank`, `Text.trim`, `Text.allBlank`, `Text.cutLines`.
Key theorems: `Text.isBlank_of_isWhitespace`, `Text.trim_eq_empty_iff`.
-/

namespace SessionWatch.Text

/-- The code points with the property `White_Space`, as ranges. -/
def blankRanges : List (Nat × Nat) :=
  [(0x09, 0x0D), (0x20, 0x20), (0x85, 0x85), (0xA0, 0xA0), (0x1680, 0x1680),
   (0x2000, 0x200A), (0x2028, 0x2029), (0x202F, 0x202F), (0x205F, 0x205F), (0x3000, 0x3000)]

/-- Whether a character is a blank: one of the white-space characters of Unicode. -/
def isBlank (c : Char) : Bool :=
  blankRanges.any fun r => r.1 ≤ c.toNat && c.toNat ≤ r.2

/-- Every white-space character of core is blank. -/
theorem isBlank_of_isWhitespace {c : Char} (h : c.isWhitespace = true) : isBlank c = true := by
  simp only [Char.isWhitespace, Bool.or_eq_true, decide_eq_true_eq] at h
  rcases h with ((rfl | rfl) | rfl) | rfl <;> decide

/-- The characters without the blank ones at the front. -/
def dropBlanks (cs : List Char) : List Char := cs.dropWhile isBlank

/-- The characters without the blank ones at either end. -/
def trimChars (cs : List Char) : List Char :=
  (dropBlanks (dropBlanks cs).reverse).reverse

/-- The text without the blanks at its ends. -/
def trim (s : String) : String := String.ofList (trimChars s.toList)

/-- Nothing but blanks. -/
def allBlank (s : String) : Bool := s.toList.all isBlank

theorem dropBlanks_eq_nil_iff {cs : List Char} : dropBlanks cs = [] ↔ cs.all isBlank = true := by
  induction cs with
  | nil => simp [dropBlanks]
  | cons c cs ih => by_cases h : isBlank c <;> simp_all [dropBlanks]

theorem trimChars_eq_nil_iff {cs : List Char} : trimChars cs = [] ↔ cs.all isBlank = true := by
  rw [trimChars, List.reverse_eq_nil_iff, dropBlanks_eq_nil_iff, List.all_reverse]
  constructor
  · intro h
    rw [← List.takeWhile_append_dropWhile (p := isBlank) (l := cs), List.all_append]
    simp only [Bool.and_eq_true]
    exact ⟨List.all_takeWhile, h⟩
  · intro h
    rw [dropBlanks_eq_nil_iff.mpr h]
    rfl

/-- A text trims to nothing exactly when it is blank throughout. -/
theorem trim_eq_empty_iff {s : String} : trim s = "" ↔ allBlank s = true := by
  rw [trim, allBlank, ← trimChars_eq_nil_iff, ← String.toList_inj]
  simp

/-- The pieces between line feeds, the last one included even if it is empty. -/
def cutLines (cs : List Char) : List (List Char) :=
  (cs.foldl (fun (done, cur) c => if c = '\n' then (cur.reverse :: done, []) else (done, c :: cur))
    (([] : List (List Char)), ([] : List Char))) |> fun (done, cur) => (cur.reverse :: done).reverse

end SessionWatch.Text
