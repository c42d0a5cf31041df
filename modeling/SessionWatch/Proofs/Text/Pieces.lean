/-
# Streams and their lines

A stream is made of lines. Each line has its line feed, which only the last one
may lack, and that one is not empty then. So every stream is made of lines in
one way only: they are its pieces. The lines of a text are texts, because no
character but the line feed has its byte.

Key definitions: `Bytes.MadeOf`.
Key theorems: `Bytes.madeOf_iff`, `Text.exists_madeOf`.
-/
import SessionWatch.Proofs.Text.Bytes
import SessionWatch.Proofs.Text.Lines
import SessionWatch.Text.Pieces

namespace SessionWatch

namespace Bytes

/-- A stream is made of these lines, each with its line feed; one that is not empty may be the
last without it. -/
inductive MadeOf : Bytes → List Bytes → Prop where
  | nil : MadeOf [] []
  | last {line : Bytes} (whole : 0x0A ∉ line) (there : line ≠ []) : MadeOf line [line]
  | line {line rest : Bytes} {lines : List Bytes} (whole : 0x0A ∉ line)
      (more : MadeOf rest lines) : MadeOf (line ++ 0x0A :: rest) (line :: lines)

theorem piecesFrom_of_not_mem {bs : Bytes} (h : 0x0A ∉ bs) (acc : Bytes) :
    piecesFrom acc bs = if acc.reverse ++ bs = [] then [] else [acc.reverse ++ bs] := by
  induction bs generalizing acc with
  | nil => cases acc <;> simp [piecesFrom]
  | cons b bs ih =>
    rw [List.mem_cons, not_or] at h
    rw [piecesFrom, if_neg (Ne.symm h.1), ih h.2, List.reverse_cons, List.append_assoc,
      List.singleton_append]

theorem pieces_of_not_mem {bs : Bytes} (h : 0x0A ∉ bs) :
    pieces bs = if bs = [] then [] else [bs] := by
  rw [pieces, piecesFrom_of_not_mem h, List.reverse_nil, List.nil_append]

/-- Every stream is made of its pieces. -/
theorem madeOf_pieces (stream : Bytes) : MadeOf stream (pieces stream) := by
  by_cases feed : 0x0A ∈ stream
  · obtain ⟨line, rest, split, whole⟩ := List.eq_append_cons_of_mem feed
    have shorter : rest.length < stream.length := by
      rw [split, List.length_append, List.length_cons]
      omega
    rw [split, pieces_append line rest whole]
    exact .line whole (madeOf_pieces rest)
  · rw [pieces_of_not_mem feed]
    split
    · rename_i empty
      rw [empty]
      exact .nil
    · exact .last feed ‹_›
termination_by stream.length

/-- **A stream is made of its pieces, and of nothing else.** -/
theorem madeOf_iff {stream : Bytes} {lines : List Bytes} :
    MadeOf stream lines ↔ pieces stream = lines := by
  constructor
  · intro h
    induction h with
    | nil => rfl
    | last whole there => rw [pieces_of_not_mem whole, if_neg there]
    | line whole more ih => rw [pieces_append _ _ whole, ih]
  · intro h
    exact h ▸ madeOf_pieces stream

/-- Lines are put together with a line feed after each. -/
theorem madeOf_flatMap {lines : List Bytes} (whole : ∀ line ∈ lines, 0x0A ∉ line) :
    MadeOf (lines.flatMap (· ++ [0x0A])) lines := by
  induction lines with
  | nil => exact .nil
  | cons line lines ih =>
    obtain ⟨first, rest⟩ := List.forall_mem_cons.mp whole
    rw [List.flatMap_cons, List.append_assoc, List.singleton_append]
    exact .line first (ih rest)

end Bytes

namespace Text

theorem feed_not_mem_encode {cs : List Char} (h : '\n' ∉ cs) : 0x0A ∉ encode cs :=
  fun feed => h (mem_of_mem_encode (b := 0x0A) (by decide) feed)

theorem feed_not_mem_utf8 {s : String} (h : '\n' ∉ s.toList) : 0x0A ∉ utf8 s := by
  rw [utf8_eq_encode]
  exact feed_not_mem_encode h

theorem ofUtf8?_eq_some_iff {bs : Bytes} {s : String} : ofUtf8? bs = some s ↔ bs = utf8 s :=
  ⟨fun h => (utf8_of_ofUtf8? h).symm, fun h => h ▸ ofUtf8?_utf8 s⟩

/-- Stretches of bytes are texts one by one. -/
theorem mapM_ofUtf8?_eq_some_iff {pieces : List Bytes} {texts : List String} :
    pieces.mapM ofUtf8? = some texts ↔ pieces = texts.map utf8 := by
  induction pieces generalizing texts with
  | nil => cases texts <;> simp
  | cons piece pieces ih =>
    have parts : (piece :: pieces).mapM ofUtf8? = some texts ↔
        ∃ first, ofUtf8? piece = some first ∧ ∃ rest, pieces.mapM ofUtf8? = some rest ∧
          first :: rest = texts := by
      simp [List.mapM_cons, Option.bind_eq_some_iff]
    rw [parts]
    simp only [ofUtf8?_eq_some_iff, ih]
    constructor
    · rintro ⟨first, rfl, rest, rfl, rfl⟩
      rfl
    · intro h
      cases texts with
      | nil => cases h
      | cons first rest =>
        obtain ⟨hfirst, hrest⟩ := List.cons.inj h
        exact ⟨first, hfirst, rest, hrest, rfl⟩

/-- **A text is made of texts.** -/
theorem exists_madeOf (s : String) : ∃ lines : List String, (utf8 s).MadeOf (lines.map utf8) := by
  rw [utf8_eq_encode]
  induction s.toList using line_induction with
  | last l whole =>
    by_cases empty : l = []
    · rw [empty]
      exact ⟨[], .nil⟩
    · obtain ⟨c, cs, rfl⟩ := List.exists_cons_of_ne_nil empty
      have there : encode (c :: cs) ≠ [] :=
        fun h => String.utf8EncodeChar_ne_nil (List.append_eq_nil_iff.mp h).1
      refine ⟨[String.ofList (c :: cs)], ?_⟩
      rw [List.map_singleton, utf8_ofList]
      exact .last (feed_not_mem_encode whole) there
  | more l cs whole ih =>
    obtain ⟨lines, more⟩ := ih
    refine ⟨String.ofList l :: lines, ?_⟩
    rw [encode_append, List.map_cons, utf8_ofList]
    exact .line (feed_not_mem_encode whole) more

end Text

end SessionWatch
