/-
# Verdicts in other text

A classifier may put other text around the object with its verdict. What
stands between the first brace and the last is looked at if the output is not
JSON as a whole. It is JSON as a whole only if nothing but blanks stands around
the object, or if the object is inside a list. In a list no verdict is looked
for, and no line of it is a verdict line.

Key definitions: `Verdict.Wrapped`.
Key theorems: `Verdict.findSome?_lines_of_parse`, `Verdict.Wrapped.braced?`,
`Verdict.Wrapped.bare_or_array`, `Verdict.ofOutput_wrapped_iff`.
-/
import SessionWatch.Proofs.Classifier.VerdictLine
import SessionWatch.Proofs.Json.Passage

namespace SessionWatch

namespace Verdict

open Json (TokenNext Calm tokenBytes isSpace skipSpace)
open Text (isBlank dropBlanks trimChars encode utf8)

/-! ### Space and blanks -/

section space

variable {c : Char} {cs ds : List Char}

theorem low_of_isSpace {b : UInt8} (h : isSpace b = true) :
    b.toNat < 128 ∧ isBlank (Char.ofNat b.toNat) = true := by
  simp only [isSpace, Bool.or_eq_true, decide_eq_true_eq] at h
  rcases h with ((rfl | rfl) | rfl) | rfl <;> decide

/-- A character with a space among its bytes is a blank. -/
theorem isBlank_of_isSpace {b : UInt8} (hb : b ∈ String.utf8EncodeChar c) (space : isSpace b = true) :
    isBlank c = true := by
  obtain ⟨low, blank⟩ := low_of_isSpace space
  rwa [Text.eq_of_mem_utf8EncodeChar low hb]

/-- There is no space in front of a text that does not begin with a blank. -/
theorem skipSpace_encode (shown : ∀ c ∈ cs.head?, isBlank c = false) :
    skipSpace (encode cs) = encode cs := by
  cases cs with
  | nil => rfl
  | cons c cs =>
    obtain ⟨b, bs, heq⟩ := List.exists_cons_of_ne_nil (String.utf8EncodeChar_ne_nil (c := c))
    have other : isSpace b = false := by
      by_contra space
      rw [Bool.not_eq_false] at space
      have blank := isBlank_of_isSpace (heq ▸ List.mem_cons_self) space
      rw [shown c rfl] at blank
      cases blank
    rw [Text.encode_cons, heq, List.cons_append, Json.skipSpace_cons other]

/-- A text that does not end with a blank is not only space, unless it is empty. -/
theorem eq_nil_of_space (shown : ∀ c ∈ cs.getLast?, isBlank c = false)
    (space : ∀ b ∈ encode cs, isSpace b = true) : cs = [] := by
  cases hlast : cs.getLast? with
  | none => exact List.getLast?_eq_none_iff.mp hlast
  | some c =>
    obtain ⟨b, bs, heq⟩ := List.exists_cons_of_ne_nil (String.utf8EncodeChar_ne_nil (c := c))
    have hb : b ∈ String.utf8EncodeChar c := heq ▸ List.mem_cons_self
    have blank := isBlank_of_isSpace hb
      (space b (List.mem_flatMap.mpr ⟨c, List.mem_of_getLast? hlast, hb⟩))
    rw [shown c hlast] at blank
    cases blank

end space

/-! ### Lines of JSON -/

/-- A token is no blank, and begins no word and no label. -/
theorem tokenBytes_chars : ∀ b ∈ tokenBytes, b.toNat < 128 ∧ isBlank (Char.ofNat b.toNat) = false ∧
    (Char.ofNat b.toNat).toUpper ∉ ['V', 'W', 'D', 'I'] := by
  have all : tokenBytes.all (fun b => decide (b.toNat < 128 ∧ isBlank (Char.ofNat b.toNat) = false ∧
      (Char.ofNat b.toNat).toUpper ∉ ['V', 'W', 'D', 'I'])) = true := by decide
  simpa only [List.all_eq_true, decide_eq_true_eq] using all

/-- In front of a token there are no blanks but space. -/
theorem dropBlanks_of_tokenNext {l : List Char} (next : TokenNext (encode l)) :
    ∀ c ∈ (dropBlanks l).head?, ∃ b ∈ tokenBytes, c = Char.ofNat b.toNat := by
  induction l with
  | nil => exact nofun
  | cons c l ih =>
    obtain ⟨b, bs, heq⟩ := List.exists_cons_of_ne_nil (String.utf8EncodeChar_ne_nil (c := c))
    have hb : b ∈ String.utf8EncodeChar c := heq ▸ List.mem_cons_self
    by_cases space : isSpace b = true
    · have one : String.utf8EncodeChar c = [b] := by
        have low : c.toNat < 128 := by
          by_contra high
          exact absurd (Text.le_of_mem_utf8EncodeChar (Nat.le_of_not_lt high) hb)
            (Nat.not_le_of_lt (low_of_isSpace space).1)
        rw [Text.utf8EncodeChar_of_lt low] at hb ⊢
        rw [List.mem_singleton.mp hb]
      rw [TokenNext, Text.encode_cons, one, List.singleton_append, skipSpace,
        List.dropWhile_cons_of_pos space] at next
      rw [dropBlanks, List.dropWhile_cons_of_pos (isBlank_of_isSpace hb space)]
      exact ih next
    · rw [Bool.not_eq_true] at space
      have token : b ∈ tokenBytes := by
        refine next b ?_
        rw [Text.encode_cons, heq, List.cons_append, Json.skipSpace_cons space]
        rfl
      have same := Text.eq_of_mem_utf8EncodeChar (tokenBytes_chars b token).1 hb
      have shown : isBlank c = false := same ▸ (tokenBytes_chars b token).2.1
      rw [dropBlanks, List.dropWhile_cons_of_neg (by simp [shown])]
      rintro _ ⟨⟩
      exact ⟨b, token, same⟩

theorem ofLine?_of_tokenNext {l : List Char} (one : '\n' ∉ l) (next : TokenNext (encode l)) :
    ofLine? l = none := by
  refine (ofLine?_eq_none_iff one).mpr fun v h => ?_
  obtain ⟨c, more, heq, letter⟩ := head?_of_isVerdictLine h
  obtain ⟨b, token, rfl⟩ : ∃ b ∈ tokenBytes, c = Char.ofNat b.toNat := by
    refine dropBlanks_of_tokenNext next c ?_
    rw [← Text.trimChars_append_trailing, heq]
    rfl
  exact (tokenBytes_chars b token).2.2 letter

theorem tokenNext_left {bs bs' : Bytes} (next : TokenNext (bs ++ bs')) : TokenNext bs := by
  intro b hb
  refine next b ?_
  obtain ⟨tail, heq⟩ := List.head?_eq_some_iff.mp hb
  have filled : bs.dropWhile isSpace ≠ [] := by
    rw [show bs.dropWhile isSpace = _ from heq]
    exact List.cons_ne_nil _ _
  rw [skipSpace, List.dropWhile_append, if_neg (by simpa using filled),
    show bs.dropWhile isSpace = _ from heq]
  rfl

theorem findSome?_lines_of_calm {cs : List Char} (next : TokenNext (encode cs))
    (calm : Calm (encode cs)) : (cs.splitOn '\n').findSome? ofLine? = none := by
  induction cs using Text.line_induction with
  | last l one =>
    rw [List.splitOn_eq_singleton one, List.findSome?_singleton, ofLine?_of_tokenNext one next]
  | more l cs one ih =>
    rw [Text.encode_append, Text.encode_cons] at next calm
    have behind : 0x0A :: encode cs <:+ encode l ++ (0x0A :: encode cs) := List.suffix_append _ _
    rw [List.splitOn_append_cons_self_of_not_mem one, List.findSome?_cons,
      ofLine?_of_tokenNext one (tokenNext_left next)]
    exact ih (calm _ behind) (calm.of_suffix ((List.suffix_cons _ _).trans behind))

/-- **No line of a text that is JSON is a verdict line.** -/
theorem findSome?_lines_of_parse {cs : List Char} {u : Json} (h : Json.parse (encode cs) = .ok u) :
    (cs.splitOn '\n').findSome? ofLine? = none :=
  findSome?_lines_of_calm (Json.calm_of_parse h).1 (Json.calm_of_parse h).2

/-! ### Text around an object -/

/-- Text without braces in front of the text of an object and behind it. -/
structure Wrapped (front obj back : List Char) : Prop where
  front : '\x7b' ∉ front ∧ '\x7d' ∉ front
  back : '\x7b' ∉ back ∧ '\x7d' ∉ back
  opens : obj.head? = some '\x7b'
  closes : obj.getLast? = some '\x7d'

namespace Wrapped

variable {front obj back : List Char} (h : Wrapped front obj back)

include h

/-- **The object is what stands between the first brace and the last.** -/
theorem braced? : braced? (front ++ obj ++ back) = some obj := by
  obtain ⟨inside, hopens⟩ := List.head?_eq_some_iff.mp h.opens
  obtain ⟨inside', hcloses⟩ := List.getLast?_eq_some_iff.mp h.closes
  have first : (front ++ obj ++ back).dropWhile (· ≠ '\x7b') = obj ++ back := by
    rw [List.append_assoc, List.dropWhile_append_of_pos (ne_of_not_mem h.front.1), hopens]
    rfl
  have last : (obj ++ back).reverse.dropWhile (· ≠ '\x7d') = obj.reverse := by
    have bare : '\x7d' ∉ back.reverse := fun inside => h.back.2 (List.mem_reverse.mp inside)
    rw [List.reverse_append, List.dropWhile_append_of_pos (ne_of_not_mem bare), hcloses,
      List.reverse_append]
    rfl
  unfold Verdict.braced?
  rw [first]
  dsimp only
  rw [last, List.reverse_reverse, if_neg (by simp [hopens])]

/-- The first and the last character of an output without blanks at its ends. -/
theorem shown (first : ∀ c ∈ front.head?, isBlank c = false)
    (last : ∀ c ∈ back.getLast?, isBlank c = false) :
    (∀ c ∈ (front ++ obj ++ back).head?, isBlank c = false) ∧
      ∀ c ∈ (front ++ obj ++ back).getLast?, isBlank c = false := by
  constructor
  · intro c hc
    rw [List.append_assoc, List.head?_append, List.head?_append, h.opens] at hc
    cases hfront : front.head? with
    | none =>
      rw [hfront] at hc
      cases hc
      decide
    | some d =>
      rw [hfront] at hc
      cases hc
      exact first c hfront
  · intro c hc
    rw [List.getLast?_append, List.getLast?_append, h.closes] at hc
    cases hback : back.getLast? with
    | none =>
      rw [hback] at hc
      cases hc
      decide
    | some d =>
      rw [hback] at hc
      cases hc
      exact last c hback

/-- **Without the blanks at its ends an output is the same object with less around it.** -/
theorem trimmed : ∃ front' back', Wrapped front' obj back' ∧
    trimChars (front ++ obj ++ back) = front' ++ obj ++ back' ∧
    (∀ c ∈ front'.head?, isBlank c = false) ∧ ∀ c ∈ back'.getLast?, isBlank c = false := by
  obtain ⟨pre, blank, hfront⟩ := Text.exists_blanks front
  obtain ⟨post, blank', hback⟩ := Text.exists_blanks back.reverse
  have hback' : back = (dropBlanks back.reverse).reverse ++ post.reverse := by
    rw [← List.reverse_append, ← hback, List.reverse_reverse]
  have first := Text.head?_dropBlanks front
  have last : ∀ c ∈ (dropBlanks back.reverse).reverse.getLast?, isBlank c = false := by
    intro c hc
    rw [List.getLast?_reverse] at hc
    exact Text.head?_dropBlanks _ c hc
  generalize dropBlanks front = front' at hfront first
  generalize (dropBlanks back.reverse).reverse = back' at hback' last
  subst hfront hback'
  have wrapped : Wrapped front' obj back' :=
    { front := ⟨fun inside => h.front.1 (List.mem_append_right _ inside),
        fun inside => h.front.2 (List.mem_append_right _ inside)⟩
      back := ⟨fun inside => h.back.1 (List.mem_append_left _ inside),
        fun inside => h.back.2 (List.mem_append_left _ inside)⟩
      opens := h.opens
      closes := h.closes }
  refine ⟨front', back', wrapped, ?_, first, last⟩
  obtain ⟨first, last⟩ := wrapped.shown first last
  calc trimChars (pre ++ front' ++ obj ++ (back' ++ post.reverse))
      = trimChars (pre ++ (front' ++ obj ++ back' ++ post.reverse)) := by
        simp only [List.append_assoc]
    _ = trimChars (front' ++ obj ++ back' ++ post.reverse) := Text.trimChars_blanks_append blank
    _ = trimChars (front' ++ obj ++ back') :=
        Text.trimChars_append_blanks fun c hc => blank' c (List.mem_reverse.mp hc)
    _ = front' ++ obj ++ back' := Text.trimChars_eq_self first last

/-- If a closing brace is read, all that stands behind the object is behind it. -/
theorem suffix_of_closing {rest : Bytes} (closing : 0x7D :: rest <:+ encode (obj ++ back)) :
    encode back <:+ rest := by
  have bare : 0x7D ∉ encode back := fun hb => h.back.2 (Text.mem_of_mem_encode (by decide) hb)
  rw [Text.encode_append] at closing
  rcases List.suffix_or_suffix_of_suffix (List.suffix_append (encode obj) _) closing with
    inner | outer
  · rcases List.suffix_cons_iff.mp inner with same | inner
    · exact absurd (same ▸ List.mem_cons_self) bare
    · exact inner
  · exact absurd (outer.mem List.mem_cons_self) bare

/-- An object that is not empty has a quote as its first token, and a closing brace behind it. -/
theorem exists_quote {w : Json} (read : Json.parse (encode obj) = .ok w) (filled : w ≠ .object []) :
    ∃ gap behind, encode obj = 0x7B :: (gap ++ 0x22 :: behind) ∧ 0x7D ∈ behind ∧
      ∀ b ∈ gap, isSpace b = true := by
  obtain ⟨inside, hopens⟩ := List.head?_eq_some_iff.mp h.opens
  obtain ⟨inside', hcloses⟩ := List.getLast?_eq_some_iff.mp h.closes
  have opens : encode obj = 0x7B :: encode inside := by rw [hopens]; rfl
  have closes : encode obj = encode inside' ++ [0x7D] := by rw [hcloses, Text.encode_append]; rfl
  obtain ⟨gap, behind, hinside, blank⟩ := Json.exists_quote_of_parse (opens ▸ read) filled
  refine ⟨gap, behind, by rw [opens, hinside], ?_, blank⟩
  have last : (0x7B :: (gap ++ 0x22 :: behind)).getLast? = some 0x7D := by
    rw [← hinside, ← opens, closes, List.getLast?_append]
    rfl
  rw [← List.cons_append, List.getLast?_append] at last
  cases hbehind : behind.getLast? with
  | none =>
    rw [List.getLast?_eq_none_iff.mp hbehind] at last
    cases last
  | some b =>
    rw [List.getLast?_cons, hbehind] at last
    cases last
    exact List.mem_of_getLast? hbehind

/-- **A string that begins in front of the object does not end behind it**: it would have to get
over the first quote of the object. -/
theorem mem_of_readText {w : Json} (read : Json.parse (encode obj) = .ok w)
    (filled : w ≠ .object []) {more rest : Bytes} {s : String}
    (split : encode (front ++ obj ++ back) = 0x22 :: more)
    (text : Json.readText more = .ok (s, rest)) : 0x7D ∈ rest := by
  have first := Text.head?_of_encode (c := '"') (by decide) split
  cases front with
  | nil =>
    rw [List.nil_append, List.head?_append, h.opens] at first
    cases first
  | cons c front =>
    cases first
    obtain ⟨gap, behind, hobj, closing, blank⟩ := h.exists_quote read filled
    have heq : more = encode front ++ 0x7B :: (gap ++ 0x22 :: (behind ++ encode back)) := by
      calc more = encode (front ++ obj ++ back) := (List.cons.inj split).2.symm
        _ = encode front ++ encode obj ++ encode back := by
          rw [Text.encode_append, Text.encode_append]
        _ = _ := by rw [hobj]; simp
    have left := Json.suffix_of_skipTextFrom (by decide) blank
      (heq ▸ Json.skipTextFrom_of_read more text)
    exact left.mem (List.mem_append_left _ closing)

/-- **A text that is JSON as a whole is the object alone, or a list.** -/
theorem bare_or_array (first : ∀ c ∈ front.head?, isBlank c = false)
    (last : ∀ c ∈ back.getLast?, isBlank c = false) {w u : Json}
    (read : Json.parse (encode obj) = .ok w) (filled : w ≠ .object [])
    (whole : Json.parse (encode (front ++ obj ++ back)) = .ok u) :
    (∃ vs, u = .array vs) ∨ front = [] ∧ back = [] := by
  have start := skipSpace_encode (h.shown first last).1
  obtain ⟨rest, passed, space⟩ := Json.passed_of_parse whole
  cases passed with
  | array => exact .inl ⟨_, rfl⟩
  | @object more ms next _ passes =>
    right
    rw [start] at next
    have brace := Text.head?_of_encode (c := '\x7b') (by decide) next
    cases front with
    | cons c front =>
      cases brace
      exact absurd List.mem_cons_self h.front.1
    | nil =>
      have behind : encode back <:+ rest := by
        refine h.suffix_of_closing ?_
        rw [show encode (obj ++ back) = 0x7B :: more from next]
        exact passes.suffix.trans (List.suffix_cons _ _)
      exact ⟨rfl, eq_nil_of_space last fun b hb => space b (behind.mem hb)⟩
  | @scalar b more _ next scalar =>
    exfalso
    rw [start] at next
    obtain ⟨-, ⟨rfl, s, text⟩ | bare⟩ := Json.readScalar_cases scalar
    · exact absurd (space _ (h.mem_of_readText read filled next text)) (by decide)
    · obtain ⟨gap, behind, hobj, -⟩ := h.exists_quote read filled
      have brace : 0x7B ∈ rest := by
        refine bare.mem_rest ?_ (by decide)
        rw [← next, Text.encode_append, Text.encode_append, hobj]
        simp
      exact absurd (space _ brace) (by decide)

end Wrapped

/-! ### Outputs -/

/-- The value of a text, before the members of its objects are put in order. -/
theorem parse?_eq_some_iff {bs : Bytes} {w : Json} :
    Json.parse? bs = some w ↔ ∃ u, Json.parse bs = .ok u ∧ u.canonical = w := by
  unfold Json.parse?
  cases Json.parse bs <;> simp [Except.toOption]

section output

variable {output : String} (filled : trimChars output.toList ≠ [])

include filled

theorem ofOutput_of_json {v : Verdict} (h : ofJsonIn? (trimChars output.toList) = some v) :
    ofOutput output = .ok v := by
  unfold ofOutput
  dsimp only
  rw [if_neg (by simpa using filled), h]

theorem ofOutput_of_none (h : ofJsonIn? (trimChars output.toList) = none)
    (lines : ((trimChars output.toList).splitOn '\n').findSome? ofLine? = none) :
    ofOutput output =
      .error (.noVerdict (Text.snippet (Text.trim output) snippetLength)) := by
  unfold ofOutput
  dsimp only
  rw [if_neg (by simpa using filled), h, Text.cutLines_eq_splitOn, lines]
  rfl

end output

/-- **An object in other text decides, unless a list that has it in it is all there is.** The text
of an object carries a verdict, and there are no braces in what stands before it and behind it.
The verdict of the output is that of the object, whatever stands around it, exactly if the output,
blanks at its ends aside, is not the text of a list. If it is, there is no verdict. -/
theorem ofOutput_wrapped_iff {front obj back : String}
    (wrapped : Wrapped front.toList obj.toList back.toList) {w : Json} {v : Verdict}
    (read : Json.parse? (utf8 obj) = some w) (carried : ofJson? w = some v) :
    let output := front ++ obj ++ back
    (ofOutput output = .ok v ↔ ∀ vs, Json.parse? (utf8 (Text.trim output)) ≠ some (.array vs)) ∧
    ∀ vs, Json.parse? (utf8 (Text.trim output)) = some (.array vs) →
      ofOutput output = .error (.noVerdict (Text.snippet (Text.trim output) snippetLength)) := by
  intro output
  obtain ⟨front', back', wrapped', trimmed, first, last⟩ := wrapped.trimmed
  have here : trimChars output.toList = front' ++ obj.toList ++ back' := by
    rw [← trimmed, String.toList_append, String.toList_append]
  have filled : trimChars output.toList ≠ [] := by
    intro empty
    have opens := wrapped.opens
    rw [here, List.append_eq_nil_iff, List.append_eq_nil_iff] at empty
    rw [empty.1.2] at opens
    cases opens
  have bytes : utf8 (Text.trim output) = encode (front' ++ obj.toList ++ back') := by
    rw [Text.utf8_eq_encode, Text.toList_trim, here]
  have again : utf8 (String.ofList (trimChars output.toList)) = utf8 (Text.trim output) := rfl
  obtain ⟨w', readObj, rfl⟩ := parse?_eq_some_iff.mp read
  rw [Text.utf8_eq_encode] at readObj
  have found (u : Json) (whole : Json.parse? (utf8 (Text.trim output)) = some u) :
      (∃ vs, u = .array vs) ∨ u = w'.canonical := by
    obtain ⟨u', whole', rfl⟩ := parse?_eq_some_iff.mp whole
    rw [bytes] at whole'
    obtain ⟨vs, rfl⟩ | ⟨rfl, rfl⟩ := wrapped'.bare_or_array first last readObj
      (by rintro rfl; cases carried) whole'
    · exact .inl ⟨_, Json.canonical_array vs⟩
    · rw [List.nil_append, List.append_nil] at whole'
      exact .inr (congrArg Json.canonical (Except.ok.inj (whole'.symm.trans readObj)))
  have listed (vs : List Json) (whole : Json.parse? (utf8 (Text.trim output)) = some (.array vs)) :
      ofOutput output = .error (.noVerdict (Text.snippet (Text.trim output) snippetLength)) := by
    obtain ⟨u', whole', -⟩ := parse?_eq_some_iff.mp whole
    refine ofOutput_of_none filled ?_ ?_
    · rw [ofJsonIn?, again, whole]
      rfl
    · rw [Text.utf8_eq_encode, Text.toList_trim] at whole'
      exact findSome?_lines_of_parse whole'
  refine ⟨⟨fun decided vs whole => ?_, fun unlisted => ofOutput_of_json filled ?_⟩, listed⟩
  · rw [listed vs whole] at decided
    cases decided
  · rw [ofJsonIn?, again]
    cases hwhole : Json.parse? (utf8 (Text.trim output)) with
    | none =>
      dsimp only
      rw [here, wrapped'.braced?, Option.bind_some, String.ofList_toList, read, Option.bind_some,
        carried]
    | some u =>
      obtain ⟨vs, rfl⟩ | rfl := found u hwhole
      · exact absurd hwhole (unlisted vs)
      · exact carried

/-- An object with a verdict after some prose and a line that is a verdict line itself, and the
same object in a list. -/
theorem ofOutput_wrapped_iff_list :
    let obj := "\x7b\"verdict\":\n \"WAITING\"\x7d"
    let w : Json := .object [("verdict", .string "WAITING")]
    Json.parse? (utf8 obj) = some w ∧ ofJson? w = some .waitingInput ∧
      Wrapped "[see]: \nDONE\n".toList obj.toList " ]\n".toList ∧
      ofOutput ("[see]: \nDONE\n" ++ obj ++ " ]\n") = .ok .waitingInput ∧
      Wrapped "[".toList obj.toList "]".toList ∧
      ∃ beginning, ofOutput ("[" ++ obj ++ "]") = .error (.noVerdict beginning) := by
  intro obj w
  have read : Json.parse? (utf8 obj) = some w := rfl
  have carried : ofJson? w = some .waitingInput := by decide
  have prose : Wrapped "[see]: \nDONE\n".toList obj.toList " ]\n".toList :=
    ⟨by decide, by decide, by decide, by decide⟩
  have list : Wrapped "[".toList obj.toList "]".toList :=
    ⟨by decide, by decide, by decide, by decide⟩
  refine ⟨read, carried, prose, (ofOutput_wrapped_iff prose read carried).1.mpr fun vs => ?_, list,
    _, (ofOutput_wrapped_iff list read carried).2 [w] ?_⟩
  · rw [show Text.trim ("[see]: \nDONE\n" ++ obj ++ " ]\n") = "[see]: \nDONE\n" ++ obj ++ " ]" by
      decide]
    rw [show Json.parse? (utf8 ("[see]: \nDONE\n" ++ obj ++ " ]")) = none from rfl]
    exact (Option.some_ne_none _).symm
  · rw [show Text.trim ("[" ++ obj ++ "]") = "[" ++ obj ++ "]" by decide]
    rfl

end Verdict

end SessionWatch
