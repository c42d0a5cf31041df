/-
# Reading request lines

Bytes arrive in chunks of any size. A line ends at a line feed, and the last
one at the end of the stream if it is not empty. A line that is too long is
refused as soon as that is known.

Key definitions: `Arrival`, `Received`, `readLine`, `readAll`,
`streamLines`.
-/
import SessionWatch.Text.Pieces
import SessionWatch.Wire.Problem

namespace SessionWatch

/-- What a read brings. -/
inductive Arrival where
  /-- Some bytes. -/
  | bytes (chunk : Bytes)
  /-- Nothing, because the read was interrupted. -/
  | interrupted
  /-- The end of the stream. -/
  | ended
  /-- Nothing for too long. -/
  | timedOut
  | failed (why : String)
  deriving DecidableEq

/-- What comes of reading a line. -/
inductive Received where
  | line (bytes : Bytes)
  | ended
  | refused (p : Problem)
  /-- The line is not complete yet. -/
  | waiting

/-- The bytes before the first line feed and those after it, put behind `acc`, which has the
latest byte first; without a line feed all bytes are put there. -/
def cutLine (acc : Bytes) : Bytes → Bytes × Option Bytes
  | [] => (acc, none)
  | b :: bs => if b = 0x0A then (acc, some bs) else cutLine (b :: acc) bs

/-- Reads a line; `acc` has the bytes of it that were read already, the latest first. What is
left of the last chunk stays in front of the arrivals to come. -/
def readLine (acc : Bytes) : List Arrival → Received × List Arrival
  | [] => (.waiting, if acc.isEmpty then [] else [.bytes acc.reverse])
  | .interrupted :: rest => readLine acc rest
  | .ended :: rest => (if acc.isEmpty then .ended else .line acc.reverse, .ended :: rest)
  | .timedOut :: rest => (.refused .timedOut, rest)
  | .failed why :: rest => (.refused (.notRead why), rest)
  | .bytes chunk :: rest =>
    match cutLine acc chunk with
    | (line, some after) =>
      (if maxLineBytes < line.length then .refused .tooLarge else .line line.reverse,
        if after.isEmpty then rest else .bytes after :: rest)
    | (acc, none) =>
      if maxLineBytes < acc.length then (.refused .tooLarge, rest) else readLine acc rest

/-- How much there is to read. -/
def Arrival.size : Arrival → Nat
  | .bytes chunk => chunk.length + 1
  | _ => 1

/-- How much there is to read in all arrivals. -/
def arrivalsSize : List Arrival → Nat
  | [] => 0
  | a :: as => a.size + arrivalsSize as

theorem length_cutLine (acc bs : Bytes) {line after : Bytes}
    (h : cutLine acc bs = (line, some after)) : after.length < bs.length := by
  induction bs generalizing acc with
  | nil => simp [cutLine] at h
  | cons b bs ih =>
    unfold cutLine at h
    split at h
    · cases h; simp
    · have := ih _ h; simp; omega

/-- A line is not read for nothing. -/
theorem size_readLine (as : List Arrival) : ∀ (acc : Bytes) {line : Bytes} {rest : List Arrival},
    readLine acc as = (.line line, rest) →
    arrivalsSize rest + (if acc.isEmpty then 1 else 0) ≤ arrivalsSize as := by
  induction as with
  | nil => intro acc line rest h; simp [readLine] at h
  | cons a as ih =>
    intro acc line rest h
    cases a with
    | interrupted =>
      have := ih acc (by simpa [readLine] using h)
      simp [arrivalsSize, Arrival.size] at *; omega
    | ended =>
      by_cases hacc : acc = []
      · simp [readLine, hacc] at h
      · simp [readLine, hacc] at h
        simp [← h.2, hacc]
    | timedOut => simp [readLine] at h
    | failed why => simp [readLine] at h
    | bytes chunk =>
      unfold readLine at h
      split at h
      · next h' =>
        have := length_cutLine _ _ h'
        have hr := (Prod.mk.inj h).2
        split at hr <;> subst hr <;> simp [arrivalsSize, Arrival.size] <;> split <;> omega
      · split at h
        · simp at h
        · have := ih _ h
          simp only [arrivalsSize, Arrival.size] at *
          split <;> omega

/-- Everything that reading line by line brings, up to the first thing that is no line. -/
def readAll (as : List Arrival) : List Received :=
  match _h : readLine [] as with
  | (.line line, rest) => .line line :: readAll rest
  | (other, _) => [other]
termination_by arrivalsSize as
decreasing_by
  have := size_readLine as [] _h
  simp at this
  omega

/-- The lines of a whole stream, up to the first one that is too long, and whether there is one. -/
def streamLines (stream : Bytes) : List Bytes × Bool :=
  ((Bytes.pieces stream).takeWhile (·.length ≤ maxLineBytes),
    (Bytes.pieces stream).any (maxLineBytes < ·.length))

end SessionWatch
