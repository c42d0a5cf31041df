/-
# Lines from chunks

A stream arrives in chunks that are cut anywhere. Line after line is read of
it: each call returns one line and leaves the arrivals of what comes after
its line feed, so the lines are the pieces of the stream, up to the first one
that is too long, and no cut makes a difference.

Key definitions: `Reads`.
Key theorems: `sound_of_mem_readAll`, `Carries.reads_taken`, `Carries.readAll_pieces`.
-/
import SessionWatch.Proofs.Connection.Framing

namespace SessionWatch

/-- Calls that read one line each give these lines, in this order, and leave some arrivals. -/
inductive Reads : List Arrival → List Bytes → List Arrival → Prop where
  | nil {as : List Arrival} : Reads as [] as
  | line {as between left : List Arrival} {line : Bytes} {lines : List Bytes}
      (first : readLine [] as = (.line line, between)) (more : Reads between lines left) :
      Reads as (line :: lines) left

/-- **A line that is read has no line feed and is not too long**, whatever arrives. -/
theorem sound_of_mem_readAll {as : List Arrival} {line : Bytes} (h : .line line ∈ readAll as) :
    0x0A ∉ line ∧ line.length ≤ maxLineBytes := by
  induction as using readAll.induct with
  | case1 as first rest read ih =>
    rw [Carries.readAll_of_line read, List.mem_cons] at h
    obtain same | later := h
    · obtain rfl := Received.line.inj same
      obtain ⟨short, _, _, -, -, whole⟩ := isFirstLine_readLine read List.not_mem_nil (Nat.zero_le _)
      exact ⟨whole.whole, short⟩
    · exact ih later
  | case2 as other rest no_line read =>
    rw [Carries.readAll_of_other (congrArg Prod.fst read) no_line, List.mem_singleton] at h
    exact absurd h.symm (no_line line)

namespace Carries

variable {as : List Arrival} {stream : Bytes} {taken left : List Bytes}

/-- So many calls return so many lines of a stream, and the rest of the stream is left. -/
theorem reads_taken (h : Carries as stream) (made : stream.MadeOf (taken ++ left))
    (short : ∀ line ∈ taken, line.length ≤ maxLineBytes) :
    ∃ as' rest, Reads (as ++ [.ended]) taken (as' ++ [.ended]) ∧
      Carries as' rest ∧ rest <:+ stream ∧ rest.MadeOf left := by
  induction taken generalizing as stream with
  | nil => exact ⟨as, stream, .nil, h, List.suffix_rfl, made⟩
  | cons line taken ih =>
    obtain ⟨first, others⟩ := List.forall_mem_cons.mp short
    obtain ⟨between, rest, read, carries, after, more⟩ := h.readLine_next made first
    obtain ⟨as', rest', reads, carries', after', more'⟩ := ih carries more others
    exact ⟨as', rest', .line read reads, carries', after'.trans after, more'⟩

/-- **The lines that are read of a stream are its pieces, in order, up to the first one that is
too long, however the stream is cut into chunks.** A call that returns one of them leaves the
stream after it, of which nothing is lost. -/
theorem readAll_pieces (h : Carries as stream) :
    ∃ pieces, (∀ lines, stream.MadeOf lines ↔ lines = pieces) ∧
      readAll (as ++ [.ended]) =
        (pieces.takeWhile (·.length ≤ maxLineBytes)).map .line ++
          [if ∃ piece ∈ pieces, maxLineBytes < piece.length then .refused .tooLarge else .ended] ∧
      (∀ taken left, pieces = taken ++ left → (∀ line ∈ taken, line.length ≤ maxLineBytes) →
        ∃ as' rest, Reads (as ++ [.ended]) taken (as' ++ [.ended]) ∧
          Carries as' rest ∧ rest <:+ stream ∧ rest.MadeOf left) ∧
      ∀ line, .line line ∈ readAll (as ++ [.ended]) →
        0x0A ∉ line ∧ line.length ≤ maxLineBytes := by
  refine ⟨Bytes.pieces stream, fun lines => Bytes.madeOf_iff.trans eq_comm, ?_, ?_, ?_⟩
  · rw [h.readAll_ended, streamReceived, streamLines]
    simp only [List.any_eq_true, decide_eq_true_eq]
  · intro taken left split short
    exact h.reads_taken (Bytes.madeOf_iff.mpr split) short
  · exact fun line => sound_of_mem_readAll

/-- A line of as many bytes as are allowed, whose line feed comes with the next chunk, an empty
line, and a last one of one byte more than is allowed. -/
theorem readAll_pieces_at_bound :
    let most : Bytes := List.replicate maxLineBytes 0x61
    let arrivals := [.bytes most, .interrupted, .bytes [0x0A, 0x0A, 0x61], .bytes most]
    Carries arrivals (most ++ 0x0A :: 0x0A :: 0x61 :: most) ∧
      readAll (arrivals ++ [.ended]) = [.line most, .line [], .refused .tooLarge] := by
  intro most arrivals
  -- for any bytes of that length, so that they are not counted out
  have received {line : Bytes} {as : List Arrival} (whole : 0x0A ∉ line)
      (fits : line.length = maxLineBytes) (h : Carries as (line ++ 0x0A :: 0x0A :: 0x61 :: line)) :
      readAll (as ++ [.ended]) = [.line line, .line [], .refused .tooLarge] := by
    have long : 0x0A ∉ 0x61 :: line := List.not_mem_cons_of_ne_of_not_mem (by decide) whole
    have last : Bytes.MadeOf (0x61 :: line) [0x61 :: line] := .last long (List.cons_ne_nil _ _)
    have made : Bytes.MadeOf _ [line, [], 0x61 :: line] :=
      .line whole (.line List.not_mem_nil last)
    obtain ⟨pieces, unique, read, -⟩ := h.readAll_pieces
    obtain rfl := (unique _).mp made
    simpa [fits] using read
  have carries : Carries arrivals (most ++ ([0x0A, 0x0A, 0x61] ++ (most ++ []))) :=
    .bytes _ (.interrupted (.bytes _ (.bytes _ .nil)))
  rw [List.append_nil] at carries
  have whole : 0x0A ∉ most := fun h => absurd (List.eq_of_mem_replicate h) (by decide)
  exact ⟨carries, received whole List.length_replicate carries⟩

end Carries

end SessionWatch
