/-
# The longest reply

A client looks at one byte more than the longest line has, and hands nothing
on but a whole line. It counts the line feed as a part of the line, which the
daemon does not: so a reply as long as a line may be is refused if its line
feed follows, and taken if the stream ends instead.

Key theorems: `Client.replyLine_line`, `Client.replyLine_last`,
`Client.isFirstLine_replyLine`, `Client.decodeReply_line`,
`Client.reply_read_iff_shorter`.
-/
import SessionWatch.Client.Contact
import SessionWatch.Proofs.Connection.Framing
import SessionWatch.Proofs.Text.Trim
import SessionWatch.Proofs.Wire.OutgoingLine

namespace SessionWatch.Client

open Text (utf8)

/-! ### The line of a reply -/

section line

variable {line bytes seen : Bytes}

theorem throughLineFeed?_line (h : 0x0A ∉ line) (rest : Bytes) :
    throughLineFeed? (line ++ 0x0A :: rest) = some (line ++ [0x0A]) := by
  induction line with
  | nil => rfl
  | cons b line ih =>
    rw [List.mem_cons, not_or] at h
    rw [List.cons_append, throughLineFeed?, if_neg (Ne.symm h.1), ih h.2]
    rfl

theorem throughLineFeed?_of_not_mem (h : 0x0A ∉ bytes) : throughLineFeed? bytes = none := by
  induction bytes with
  | nil => rfl
  | cons b bytes ih =>
    rw [List.mem_cons, not_or] at h
    rw [throughLineFeed?, if_neg (Ne.symm h.1), ih h.2]
    rfl

/-- A line that is too long is refused, whatever follows it. -/
theorem replyLine_tooLarge (whole : 0x0A ∉ line) (long : maxLineBytes < line.length)
    (rest : Bytes) (ending : Contact.Ending) :
    replyLine (line ++ rest) ending = .error .tooLarge := by
  have seen : (line ++ rest).take (maxLineBytes + 1) = line.take (maxLineBytes + 1) :=
    List.take_append_of_le_length long
  have none : throughLineFeed? (line.take (maxLineBytes + 1)) = none :=
    throughLineFeed?_of_not_mem (mt List.mem_of_mem_take whole)
  have full : maxLineBytes < (line.take (maxLineBytes + 1)).length := by
    rw [List.length_take]
    omega
  unfold replyLine
  simp only [seen, none, if_pos full]

/-- With its line feed a line has to be shorter than a line may be. -/
theorem replyLine_line (whole : 0x0A ∉ line) (rest : Bytes) (ending : Contact.Ending) :
    replyLine (line ++ 0x0A :: rest) ending =
      if line.length < maxLineBytes then .ok (line ++ [0x0A]) else .error .tooLarge := by
  by_cases long : maxLineBytes < line.length
  · rw [replyLine_tooLarge whole long, if_neg (Nat.not_lt_of_lt long)]
  · obtain ⟨room, fits⟩ := Nat.exists_eq_add_of_le (Nat.not_lt.mp long)
    have seen : (line ++ 0x0A :: rest).take (maxLineBytes + 1) = line ++ 0x0A :: rest.take room := by
      rw [fits, Nat.add_assoc, List.take_length_add_append, List.take_succ_cons]
    have counted : maxLineBytes < (line ++ [0x0A]).length ↔ ¬ line.length < maxLineBytes := by
      rw [List.length_append, List.length_singleton]
      omega
    unfold replyLine
    simp only [seen, throughLineFeed?_line whole, counted, ite_not]

/-- Without a line feed all that came is the line, if the stream ended. -/
theorem replyLine_last (whole : 0x0A ∉ line) :
    replyLine line .closed =
      if maxLineBytes < line.length then .error .tooLarge else .ok line := by
  by_cases long : maxLineBytes < line.length
  · have refused := replyLine_tooLarge whole long [] .closed
    rw [List.append_nil] at refused
    rw [refused, if_pos long]
  · have seen : line.take (maxLineBytes + 1) = line := List.take_of_length_le (by omega)
    unfold replyLine
    simp only [seen, throughLineFeed?_of_not_mem whole, if_neg long]

/-- Without a line feed nothing is a line before the stream has ended. -/
theorem replyLine_open (whole : 0x0A ∉ bytes) {ending : Contact.Ending}
    (more : ending ≠ .closed) (seen : Bytes) : replyLine bytes ending ≠ .ok seen := by
  have none : throughLineFeed? (bytes.take (maxLineBytes + 1)) = none :=
    throughLineFeed?_of_not_mem (mt List.mem_of_mem_take whole)
  unfold replyLine
  intro h
  simp only [none] at h
  split at h
  · cases h
  · cases ending with
    | closed => exact more rfl
    | silent => cases h
    | failed why => cases h

/-- **What is handed on is not cut off**: it is the first line, with its line feed if it has one. -/
theorem isFirstLine_replyLine {ending : Contact.Ending} (h : replyLine bytes ending = .ok seen) :
    ∃ line, IsFirstLine line bytes (ending = .closed) ∧ line.length ≤ maxLineBytes ∧
      (seen = line ∨ seen = line ++ [0x0A]) := by
  by_cases feed : 0x0A ∈ bytes
  · obtain ⟨line, rest, rfl, whole⟩ := List.eq_append_cons_of_mem feed
    rw [replyLine_line whole] at h
    split at h
    · cases h
      exact ⟨line, ⟨whole, .inl ⟨rest, rfl⟩⟩, Nat.le_of_lt ‹_›, .inr rfl⟩
    · cases h
  · by_cases ended : ending = .closed
    · subst ended
      rw [replyLine_last feed] at h
      split at h
      · cases h
      · cases h
        exact ⟨bytes, ⟨feed, .inr ⟨rfl, rfl⟩⟩, Nat.not_lt.mp ‹_›, .inl rfl⟩
    · exact absurd h (replyLine_open feed ended seen)

end line

/-! ### The reply in a line -/

section reply

variable {r : Reply}

/-- A line feed does not matter to a reply, which begins and ends with a brace. -/
theorem trim_line (r : Reply) : Text.trim (r.line ++ "\n") = r.line ∧ Text.trim r.line = r.line := by
  obtain ⟨ms, object, -⟩ := r.toJson_eq
  obtain ⟨first, last⟩ := Json.braces_compact ms
  have own : Text.trimChars r.line.toList = r.line.toList := by
    rw [Reply.line, object]
    refine Text.trimChars_eq_self (fun c hc => ?_) fun c hc => ?_
    · obtain rfl := Option.some.inj (first.symm.trans hc)
      decide
    · obtain rfl := Option.some.inj (last.symm.trans hc)
      decide
  have feed : ∀ c ∈ "\n".toList, Text.isBlank c = true := by
    intro c hc
    rw [List.mem_singleton.mp hc]
    decide
  constructor
  · rw [← String.toList_inj, Text.toList_trim, String.toList_append,
      Text.trimChars_append_blanks feed, own]
  · rw [← String.toList_inj, Text.toList_trim, own]

theorem line_ne_empty (r : Reply) : r.line ≠ "" := by
  obtain ⟨ms, object, -⟩ := r.toJson_eq
  intro empty
  have first := (Json.braces_compact ms).1
  rw [← object, ← Reply.line, empty] at first
  cases first

/-- **A reply is decoded from its line**, with the line feed and without it. -/
theorem decodeReply_line (h : Reply.decode (utf8 r.line) = .ok r) :
    decodeReply (utf8 r.line ++ [0x0A]) = .ok r ∧ decodeReply (utf8 r.line) = .ok r := by
  have feed : utf8 r.line ++ [0x0A] = utf8 (r.line ++ "\n") := (Text.utf8_append r.line "\n").symm
  have decoded : (Reply.decode (utf8 r.line)).mapError Fault.notJson = .ok r := by
    rw [h]
    rfl
  constructor
  · rw [decodeReply, feed, Text.ofUtf8Lossy_utf8, (trim_line r).1]
    simp only [if_neg (line_ne_empty r), decoded]
  · rw [decodeReply, Text.ofUtf8Lossy_utf8, (trim_line r).2]
    simp only [if_neg (line_ne_empty r), decoded]

theorem not_mem_line (bare : r.data = none) : 0x0A ∉ utf8 r.line := by
  intro feed
  rw [Reply.line, Json.utf8_compact] at feed
  exact absurd ((Reply.plain_toJson_of_bare bare).le_of_mem_bytes _ feed) (by decide)

/-- **A reply is read if it is shorter than a line may be.** A client counts the line feed that
follows a reply as one of its bytes, so the longest reply is refused; one that the stream ends
without a line feed is not. A daemon takes every line that is not longer than a line may be. Both
refuse a longer one, whatever follows it, and neither takes for a line what is cut off. -/
theorem reply_read_iff_shorter (bare : r.data = none)
    (dated : ∀ ss ∈ r.sessions, ∀ s ∈ ss, s.InCalendar) :
    (∀ rest ending, readReply (utf8 r.line ++ 0x0A :: rest) ending =
      if (utf8 r.line).length < maxLineBytes then .ok r else .error .tooLarge) ∧
    (readReply (utf8 r.line) .closed =
      if (utf8 r.line).length ≤ maxLineBytes then .ok r else .error .tooLarge) ∧
    (∀ as line rest, Carries as (line ++ 0x0A :: rest) → 0x0A ∉ line →
      line.length ≤ maxLineBytes → ∃ as', Carries as' rest ∧
        ∀ later, readLine [] (as ++ later) = (.line line, as' ++ later)) ∧
    (∀ as line later, Carries as line → 0x0A ∉ line → line ≠ [] → line.length ≤ maxLineBytes →
      readLine [] (as ++ .ended :: later) = (.line line, .ended :: later)) ∧
    (∀ line rest, 0x0A ∉ line → maxLineBytes < line.length →
      (∀ ending, readReply (line ++ rest) ending = .error .tooLarge) ∧
      ∀ as later, Carries as (line ++ rest) →
        (readLine [] (as ++ later)).1 = .refused .tooLarge) ∧
    (∀ bytes ending seen, replyLine bytes ending = .ok seen →
      ∃ line, IsFirstLine line bytes (ending = .closed) ∧ line.length ≤ maxLineBytes ∧
        (seen = line ∨ seen = line ++ [0x0A])) ∧
    ∀ as line as', readLine [] as = (.line line, as') →
      line.length ≤ maxLineBytes ∧ ∃ front stream, Carries front stream ∧ front <+: as ∧
        IsFirstLine line stream (front ++ [.ended] <+: as) := by
  have whole := not_mem_line bare
  obtain ⟨fed, last⟩ := decodeReply_line (Reply.decode_line_of_bare bare dated)
  refine ⟨?_, ?_, ?_, ?_, ?_, ?_, ?_⟩
  · intro rest ending
    rw [readReply, replyLine_line whole]
    by_cases short : (utf8 r.line).length < maxLineBytes
    · rw [if_pos short, if_pos short]
      exact fed
    · rw [if_neg short, if_neg short]
  · rw [readReply, replyLine_last whole]
    by_cases long : maxLineBytes < (utf8 r.line).length
    · rw [if_pos long, if_neg (Nat.not_le_of_lt long)]
    · rw [if_neg long, if_pos (Nat.not_lt.mp long)]
      exact last
  · intro as line rest carries clean short
    exact carries.readLine_line clean short
  · intro as line later carries clean there short
    exact carries.readLine_last clean there short later
  · intro line rest clean long
    refine ⟨fun ending => ?_, fun as later carries => carries.readLine_tooLarge clean long later⟩
    rw [readReply, replyLine_tooLarge clean long]
  · intro bytes ending seen read
    exact isFirstLine_replyLine read
  · intro as line as' read
    exact isFirstLine_readLine read List.not_mem_nil (Nat.zero_le _)

/-- A session of a leap second in the year 12000, in a reply that an error text fills up. One byte
below the bound it is read. At the bound it is refused with its line feed and read without, and a
daemon reads a line of these bytes. -/
theorem reply_read_iff_shorter_at_bound :
    let t : Instant := ⟨⟨12000, 12, 31⟩, 86399, 1500000000⟩
    let s : Session := ⟨"a\"b", "é\n", "/src", .codex, .idle, ["[ ] \t漢"], true, t, t, t⟩
    let r (n : Nat) : Reply :=
      { ok := true, error := some (String.ofList (List.replicate n 'a')), sessions := some [s] }
    (∀ n, (r n).data = none ∧ ∀ ss ∈ (r n).sessions, ∀ s ∈ ss, s.InCalendar) ∧
    readReply (utf8 (r 1048296).line ++ [0x0A]) .silent = .ok (r 1048296) ∧
    (utf8 (r 1048297).line).length = maxLineBytes ∧
    readReply (utf8 (r 1048297).line ++ [0x0A]) .closed = .error .tooLarge ∧
    readReply (utf8 (r 1048297).line) .closed = .ok (r 1048297) ∧
    ∃ left, readLine [] [.bytes (utf8 (r 1048297).line ++ [0x0A])] =
      (.line (utf8 (r 1048297).line), left) := by
  intro t s r
  have length (n : Nat) : (utf8 (r n).line).length = n + 279 := by
    have text : (Json.quotedBytes (String.ofList (List.replicate n 'a'))).length = n + 2 := by
      have own : Json.escapeBytes 'a' = [0x61] := rfl
      simp [Json.quotedBytes, List.flatMap_replicate, own]
    have sessions : (Json.bytes ((Shape.list Session.shape).toJson [s])).length = 245 := by
      decide +kernel
    have object : Reply.shape.toJson (r n) = .object [("ok", .bool true),
      ("error", .string (String.ofList (List.replicate n 'a'))),
      ("sessions", (Shape.list Session.shape).toJson [s])] := rfl
    have names : (Json.quotedBytes "ok").length = 4 ∧ (Json.quotedBytes "error").length = 7 ∧
        (Json.quotedBytes "sessions").length = 10 := by decide +kernel
    rw [Reply.line, Json.utf8_compact, object]
    simp only [Json.bytes, Json.restOfMembers, List.length_cons, List.length_append,
      List.length_nil, text, sessions, names]
    omega
  have moment : t.InCalendar := ⟨by decide, by decide⟩
  have dated (n : Nat) : ∀ ss ∈ (r n).sessions, ∀ s ∈ ss, s.InCalendar := by
    rintro _ ⟨⟩ s' hs'
    obtain rfl := List.mem_singleton.mp hs'
    exact ⟨moment, moment, moment⟩
  have bare (n : Nat) : (r n).data = none := rfl
  clear_value r
  have shorter : (utf8 (r 1048296).line).length < maxLineBytes := by
    rw [length]
    decide
  have longest : (utf8 (r 1048297).line).length = maxLineBytes := by
    rw [length]
    decide
  obtain ⟨read, -⟩ := reply_read_iff_shorter (bare 1048296) (dated 1048296)
  obtain ⟨refused, last, taken, -⟩ := reply_read_iff_shorter (bare 1048297) (dated 1048297)
  refine ⟨fun n => ⟨bare n, dated n⟩, ?_, longest, ?_, ?_, ?_⟩
  · rw [read, if_pos shorter]
  · rw [refused, if_neg (Nat.not_lt.mpr (Nat.le_of_eq longest.symm))]
  · rw [last, if_pos (Nat.le_of_eq longest)]
  · have carries := Carries.bytes (utf8 (r 1048297).line ++ [0x0A]) .nil
    rw [List.append_nil] at carries
    obtain ⟨left, -, line⟩ := taken _ _ [] carries (not_mem_line (bare 1048297))
      (Nat.le_of_eq longest)
    exact ⟨left ++ [], line []⟩

end reply

end SessionWatch.Client
