/-
# Lines of a stream

The lines that are read do not depend on how a stream is cut into chunks, nor
on interruptions. Every line takes its bytes and its line feed off the
arrivals and leaves all that follows.

Key definitions: `Carries`, `IsFirstLine`, `streamReceived`.
Key theorems: `isFirstLine_readLine`, `Carries.readLine_line`,
`Carries.readLine_tooLarge`, `Carries.readLine_next`, `Carries.readAll_ended`.
-/
import SessionWatch.Connection.Intake
import SessionWatch.Proofs.Text.Pieces

namespace SessionWatch

/-- The arrivals bring the bytes of a stream, cut in some way and with interruptions, and
nothing else. -/
inductive Carries : List Arrival → Bytes → Prop where
  | nil : Carries [] []
  | interrupted {as : List Arrival} {bs : Bytes} (rest : Carries as bs) :
      Carries (.interrupted :: as) bs
  | bytes (chunk : Bytes) {as : List Arrival} {bs : Bytes} (rest : Carries as bs) :
      Carries (.bytes chunk :: as) (chunk ++ bs)

/-! ### Where a line is cut -/

section cutLine

variable {acc line after : Bytes}

theorem cutLine_append_of_some {bs : Bytes} (h : cutLine acc bs = (line, some after))
    (cs : Bytes) : cutLine acc (bs ++ cs) = (line, some (after ++ cs)) := by
  induction bs generalizing acc with
  | nil => cases h
  | cons b bs ih =>
    rw [List.cons_append, cutLine]
    rw [cutLine] at h
    split
    · rw [if_pos ‹_›] at h
      cases h
      rfl
    · rw [if_neg ‹_›] at h
      exact ih h

theorem cutLine_append_of_none {bs : Bytes} (h : cutLine acc bs = (line, none)) (cs : Bytes) :
    cutLine acc (bs ++ cs) = cutLine line cs := by
  induction bs generalizing acc with
  | nil =>
    cases h
    rfl
  | cons b bs ih =>
    rw [cutLine] at h
    split at h
    · cases h
    · rw [List.cons_append, cutLine, if_neg ‹_›]
      exact ih h

theorem cutLine_line (h : 0x0A ∉ line) (acc rest : Bytes) :
    cutLine acc (line ++ 0x0A :: rest) = (line.reverse ++ acc, some rest) := by
  induction line generalizing acc with
  | nil => rfl
  | cons b line ih =>
    rw [List.mem_cons, not_or] at h
    rw [List.cons_append, cutLine, if_neg (Ne.symm h.1), ih h.2, List.reverse_cons,
      List.append_assoc, List.singleton_append]

theorem cutLine_of_not_mem {bs : Bytes} (h : 0x0A ∉ bs) (acc : Bytes) :
    cutLine acc bs = (bs.reverse ++ acc, none) := by
  induction bs generalizing acc with
  | nil => rfl
  | cons b bs ih =>
    rw [List.mem_cons, not_or] at h
    rw [cutLine, if_neg (Ne.symm h.1), ih h.2, List.reverse_cons, List.append_assoc,
      List.singleton_append]

theorem length_le_cutLine (acc bs : Bytes) : acc.length ≤ (cutLine acc bs).1.length := by
  induction bs generalizing acc with
  | nil => exact Nat.le_refl _
  | cons b bs ih =>
    rw [cutLine]
    split
    · exact Nat.le_refl _
    · have := ih (b :: acc)
      rw [List.length_cons] at this
      omega

/-- The bytes before a cut, the line feed and the bytes after it are those that were there. -/
theorem append_of_cutLine {bs : Bytes} (h : cutLine acc bs = (line, some after)) :
    acc.reverse ++ bs = line.reverse ++ 0x0A :: after := by
  induction bs generalizing acc with
  | nil => cases h
  | cons b bs ih =>
    rw [cutLine] at h
    split at h
    · rename_i feed
      cases h
      rw [feed]
    · rw [← ih h, List.reverse_cons, List.append_assoc, List.singleton_append]

theorem reverse_cutLine {bs : Bytes} (h : cutLine acc bs = (line, none)) :
    line.reverse = acc.reverse ++ bs := by
  induction bs generalizing acc with
  | nil =>
    cases h
    rw [List.append_nil]
  | cons b bs ih =>
    rw [cutLine] at h
    split at h
    · cases h
    · rw [ih h, List.reverse_cons, List.append_assoc, List.singleton_append]

theorem not_mem_cutLine (h : 0x0A ∉ acc) (bs : Bytes) : 0x0A ∉ (cutLine acc bs).1 := by
  induction bs generalizing acc with
  | nil => exact h
  | cons b bs ih =>
    rw [cutLine]
    split
    · exact h
    · refine ih fun hm => ?_
      rcases List.mem_cons.mp hm with feed | hm
      · exact absurd feed.symm ‹_›
      · exact h hm

end cutLine

/-! ### One line -/

/-- A line is what a stream has up to its first line feed, or all of a stream that has none and
has ended. -/
structure IsFirstLine (line stream : Bytes) (ended : Prop) : Prop where
  whole : 0x0A ∉ line
  cut : (∃ rest, stream = line ++ 0x0A :: rest) ∨ stream = line ∧ ended

/-- **A line that is read is not cut off**, whatever arrives: what arrived begins with it and its
line feed, or it is all that arrived before the end. -/
theorem isFirstLine_readLine {as as' : List Arrival} {acc line : Bytes}
    (h : readLine acc as = (.line line, as')) (whole : 0x0A ∉ acc)
    (short : acc.length ≤ maxLineBytes) :
    line.length ≤ maxLineBytes ∧ ∃ front stream, Carries front stream ∧ front <+: as ∧
      IsFirstLine line (acc.reverse ++ stream) (front ++ [.ended] <+: as) := by
  induction as generalizing acc with
  | nil => cases h
  | cons a as ih =>
    cases a with
    | interrupted =>
      obtain ⟨fits, front, stream, carries, before, first⟩ := ih h whole short
      refine ⟨fits, .interrupted :: front, stream, carries.interrupted,
        List.cons_prefix_cons.mpr ⟨rfl, before⟩, first.whole, first.cut.imp_right ?_⟩
      exact fun last => ⟨last.1, List.cons_prefix_cons.mpr ⟨rfl, last.2⟩⟩
    | ended =>
      rw [readLine] at h
      split at h
      · cases h
      · cases h
        refine ⟨by rwa [List.length_reverse], [], [], .nil, List.nil_prefix,
          mt List.mem_reverse.mp whole, .inr ⟨List.append_nil _, ?_⟩⟩
        exact List.cons_prefix_cons.mpr ⟨rfl, List.nil_prefix⟩
    | timedOut => cases h
    | failed why => cases h
    | bytes chunk =>
      rw [readLine] at h
      have clean := not_mem_cutLine whole chunk
      cases cut : cutLine acc chunk with
      | mk l after =>
        rw [cut] at clean h
        cases after with
        | some after =>
          simp only at h
          split at h
          · cases h
          · cases h
            refine ⟨by rw [List.length_reverse]; omega, [.bytes chunk], chunk ++ [],
              .bytes chunk .nil, List.cons_prefix_cons.mpr ⟨rfl, List.nil_prefix⟩,
              mt List.mem_reverse.mp clean, .inl ⟨after, ?_⟩⟩
            rw [List.append_nil, append_of_cutLine cut]
        | none =>
          simp only at h
          split at h
          · cases h
          · obtain ⟨fits, front, stream, carries, before, first⟩ :=
              ih h clean (Nat.not_lt.mp ‹_›)
            rw [reverse_cutLine cut, List.append_assoc] at first
            refine ⟨fits, .bytes chunk :: front, chunk ++ stream, .bytes chunk carries,
              List.cons_prefix_cons.mpr ⟨rfl, before⟩, first.whole, first.cut.imp_right ?_⟩
            exact fun last => ⟨last.1, List.cons_prefix_cons.mpr ⟨rfl, last.2⟩⟩

namespace Carries

variable {as : List Arrival} {stream acc line rest : Bytes} {lines : List Bytes}

/-- A line that has its line feed is read, and what follows it is left. -/
theorem readLine_of_cut (h : Carries as stream) (cut : cutLine acc stream = (line, some rest))
    (short : line.length ≤ maxLineBytes) :
    ∃ as', Carries as' rest ∧
      ∀ later, readLine acc (as ++ later) = (.line line.reverse, as' ++ later) := by
  induction h generalizing acc with
  | nil => cases cut
  | interrupted _ ih => exact ih cut
  | @bytes chunk as bs hrest ih =>
    cases hchunk : cutLine acc chunk with
    | mk l after =>
      cases after with
      | some after =>
        rw [cutLine_append_of_some hchunk] at cut
        cases cut
        -- what is left of the chunk comes before the arrivals that follow
        refine ⟨if after.isEmpty then as else .bytes after :: as, ?_, fun later => ?_⟩
        · cases after with
          | nil => exact hrest
          | cons b after => exact .bytes (b :: after) hrest
        · rw [List.cons_append, readLine]
          simp only [hchunk, if_neg (Nat.not_lt.mpr short)]
          cases after <;> rfl
      | none =>
        rw [cutLine_append_of_none hchunk] at cut
        have hl : l.length ≤ maxLineBytes := by
          have := length_le_cutLine l bs
          rw [cut] at this
          exact Nat.le_trans this short
        obtain ⟨as', hcarries, hread⟩ := ih cut
        refine ⟨as', hcarries, fun later => ?_⟩
        rw [List.cons_append, readLine]
        simp only [hchunk, if_neg (Nat.not_lt.mpr hl)]
        exact hread later

/-- Bytes without a line feed are kept until more arrives. -/
theorem readLine_of_open (h : Carries as stream) (cut : cutLine acc stream = (line, none))
    (short : line.length ≤ maxLineBytes) (later : List Arrival) :
    readLine acc (as ++ later) = readLine line later := by
  induction h generalizing acc with
  | nil =>
    cases cut
    rfl
  | interrupted _ ih => exact ih cut
  | @bytes chunk as bs hrest ih =>
    cases hchunk : cutLine acc chunk with
    | mk l after =>
      cases after with
      | some after =>
        rw [cutLine_append_of_some hchunk] at cut
        cases cut
      | none =>
        rw [cutLine_append_of_none hchunk] at cut
        have hl : l.length ≤ maxLineBytes := by
          have := length_le_cutLine l bs
          rw [cut] at this
          exact Nat.le_trans this short
        rw [List.cons_append, readLine]
        simp only [hchunk, if_neg (Nat.not_lt.mpr hl)]
        exact ih cut

/-- A line that is too long is refused, whether its line feed has arrived or not. -/
theorem readLine_of_long (h : Carries as stream) (short : acc.length ≤ maxLineBytes)
    (long : maxLineBytes < (cutLine acc stream).1.length) (later : List Arrival) :
    (readLine acc (as ++ later)).1 = .refused .tooLarge := by
  induction h generalizing acc with
  | nil => exact absurd long (Nat.not_lt.mpr short)
  | interrupted _ ih => exact ih short long
  | @bytes chunk as bs hrest ih =>
    rw [List.cons_append, readLine]
    cases hchunk : cutLine acc chunk with
    | mk l after =>
      cases after with
      | some after =>
        rw [cutLine_append_of_some hchunk] at long
        simp only [if_pos long]
      | none =>
        rw [cutLine_append_of_none hchunk] at long
        simp only
        split
        · rfl
        · exact ih (Nat.not_lt.mp ‹_›) long

/-- **A line that is not too long is read as it was sent, and what follows it is left.** -/
theorem readLine_line (h : Carries as (line ++ 0x0A :: rest)) (whole : 0x0A ∉ line)
    (short : line.length ≤ maxLineBytes) :
    ∃ as', Carries as' rest ∧
      ∀ later, readLine [] (as ++ later) = (.line line, as' ++ later) := by
  have cut := cutLine_line whole [] rest
  rw [List.append_nil] at cut
  have hread := h.readLine_of_cut cut (by rwa [List.length_reverse])
  rwa [List.reverse_reverse] at hread

/-- **A line that is too long is refused**, whatever follows it. -/
theorem readLine_tooLarge (h : Carries as (line ++ rest)) (whole : 0x0A ∉ line)
    (long : maxLineBytes < line.length) (later : List Arrival) :
    (readLine [] (as ++ later)).1 = .refused .tooLarge := by
  refine h.readLine_of_long (Nat.zero_le _) ?_ later
  rw [cutLine_append_of_none (cutLine_of_not_mem whole []), List.append_nil]
  have kept := length_le_cutLine line.reverse rest
  rw [List.length_reverse] at kept
  exact Nat.lt_of_lt_of_le long kept

/-- The last line of a stream needs no line feed. -/
theorem readLine_last (h : Carries as line) (whole : 0x0A ∉ line) (there : line ≠ [])
    (short : line.length ≤ maxLineBytes) (later : List Arrival) :
    readLine [] (as ++ .ended :: later) = (.line line, .ended :: later) := by
  have cut := cutLine_of_not_mem whole []
  rw [List.append_nil] at cut
  rw [h.readLine_of_open cut (by rwa [List.length_reverse]), readLine, List.reverse_reverse]
  simp [there]

/-- One call returns the first line of a stream, and the rest of the stream is left. -/
theorem readLine_next (h : Carries as stream) (made : stream.MadeOf (line :: lines))
    (short : line.length ≤ maxLineBytes) :
    ∃ as' rest, readLine [] (as ++ [.ended]) = (.line line, as' ++ [.ended]) ∧
      Carries as' rest ∧ rest <:+ stream ∧ rest.MadeOf lines := by
  cases made with
  | last whole there =>
    exact ⟨[], [], h.readLine_last whole there short [], .nil, List.nil_suffix, .nil⟩
  | @line _ rest _ whole more =>
    obtain ⟨as', carries, read⟩ := h.readLine_line whole short
    have suffix : rest <:+ line ++ 0x0A :: rest :=
      (List.suffix_cons 0x0A rest).trans (List.suffix_append line _)
    exact ⟨as', rest, read [.ended], carries, suffix, more⟩

/-- A first line that is too long is refused. -/
theorem readLine_refused (h : Carries as stream) (made : stream.MadeOf (line :: lines))
    (long : maxLineBytes < line.length) (later : List Arrival) :
    (readLine [] (as ++ later)).1 = .refused .tooLarge := by
  cases made with
  | last whole there =>
    rw [← List.append_nil stream] at h
    exact h.readLine_tooLarge whole long later
  | line whole more => exact h.readLine_tooLarge whole long later

/-! ### All lines -/

theorem readAll_of_line {as rest : List Arrival} (h : readLine [] as = (.line line, rest)) :
    readAll as = .line line :: readAll rest := by
  rw [readAll]
  split
  · rename_i heq
    rw [h] at heq
    cases heq
    rfl
  · rename_i other heq
    rw [h] at heq
    exact (other _ (Prod.mk.inj heq).1.symm).elim

theorem readAll_of_other {as : List Arrival} {r : Received} (h : (readLine [] as).1 = r)
    (other : ∀ line, r ≠ .line line) : readAll as = [r] := by
  rw [readAll]
  split
  · rename_i heq
    rw [heq] at h
    exact absurd h.symm (other _)
  · rename_i heq
    rw [heq] at h
    exact congrArg (fun r => [r]) h

end Carries

/-- Everything that is read of a stream that ends. -/
def streamReceived (stream : Bytes) : List Received :=
  (streamLines stream).1.map .line ++
    [if (streamLines stream).2 then .refused .tooLarge else .ended]

section streamReceived

variable {stream rest line : Bytes} {lines : List Bytes}

theorem streamReceived_of_long (made : stream.MadeOf (line :: lines))
    (long : maxLineBytes < line.length) : streamReceived stream = [.refused .tooLarge] := by
  unfold streamReceived streamLines
  rw [Bytes.madeOf_iff.mp made]
  simp [long, Nat.not_le_of_lt long]

/-- The first line is received, and then the rest of the stream. -/
theorem streamReceived_of_short (made : stream.MadeOf (line :: lines)) (more : rest.MadeOf lines)
    (short : line.length ≤ maxLineBytes) :
    streamReceived stream = .line line :: streamReceived rest := by
  unfold streamReceived streamLines
  rw [Bytes.madeOf_iff.mp made, Bytes.madeOf_iff.mp more]
  simp [short, Nat.not_lt.mpr short]

end streamReceived

namespace Carries

/-- **What is read of a stream are its lines, in order, up to the first one that is too long,
however the stream is cut.** -/
theorem readAll_ended (stream : Bytes) {as : List Arrival} (h : Carries as stream) :
    readAll (as ++ [.ended]) = streamReceived stream := by
  obtain ⟨lines, made⟩ : ∃ lines, stream.MadeOf lines := ⟨_, Bytes.madeOf_pieces stream⟩
  induction lines generalizing as stream with
  | nil =>
    cases made
    exact readAll_of_other (congrArg Prod.fst (h.readLine_of_open rfl (Nat.zero_le _) _)) nofun
  | cons line lines ih =>
    by_cases long : maxLineBytes < line.length
    · rw [streamReceived_of_long made long]
      exact readAll_of_other (h.readLine_refused made long _) nofun
    · have short := Nat.not_lt.mp long
      obtain ⟨as', rest, read, carries, -, more⟩ := h.readLine_next made short
      rw [readAll_of_line read, streamReceived_of_short made more short, ih rest carries more]

end Carries

end SessionWatch
