/-
# What readers get over

A reader takes bytes off the front of what it gets. A number is made of the
bytes of numbers, and a text has no control characters. It ends at its first
quote without a backslash before it, so nothing that has one of its own can
stand in it. Between the tokens of a value there is nothing but space, so a
line feed is followed by a token or by nothing at all, and an object is got
over up to a closing brace.

Key definitions: `Json.Over`, `Json.TokenNext`, `Json.Calm`, `Json.Passes`,
`Json.Passed`.
Key theorems: `Json.over_readNumber`, `Json.suffix_of_skipTextFrom`,
`Json.passed_readValue`, `Json.exists_quote_of_parse`, `Json.calm_of_parse`.
-/
import Mathlib.Data.List.DropRight
import SessionWatch.Proofs.Json.PassOver

namespace SessionWatch.Json

/-! ### Bytes of a kind -/

/-- What is left behind some bytes of a kind. -/
def Over (P : UInt8 → Prop) (bs rest : Bytes) : Prop := ∃ front, bs = front ++ rest ∧ ∀ b ∈ front, P b

namespace Over

variable {P Q : UInt8 → Prop} {bs bs' rest : Bytes} {b : UInt8}

theorem refl (bs : Bytes) : Over P bs bs := ⟨[], rfl, nofun⟩

theorem trans (h : Over P bs bs') (h' : Over P bs' rest) : Over P bs rest := by
  obtain ⟨front, rfl, hfront⟩ := h
  obtain ⟨front', rfl, hfront'⟩ := h'
  refine ⟨front ++ front', (List.append_assoc ..).symm, fun b hb => ?_⟩
  exact (List.mem_append.mp hb).elim (hfront b) (hfront' b)

theorem cons (hb : P b) (h : Over P bs rest) : Over P (b :: bs) rest :=
  trans ⟨[b], rfl, by simpa using hb⟩ h

theorem mono (h : Over P bs rest) (imp : ∀ b, P b → Q b) : Over Q bs rest := by
  obtain ⟨front, rfl, hfront⟩ := h
  exact ⟨front, rfl, fun b hb => imp b (hfront b hb)⟩

theorem suffix (h : Over P bs rest) : rest <:+ bs := by
  obtain ⟨front, rfl, -⟩ := h
  exact List.suffix_append front rest

/-- A byte of another kind is left. -/
theorem mem_rest (h : Over P bs rest) (hb : b ∈ bs) (other : ¬ P b) : b ∈ rest := by
  obtain ⟨front, rfl, hfront⟩ := h
  exact (List.mem_append.mp hb).resolve_left fun inside => other (hfront b inside)

end Over

theorem over_dropWhile (p : UInt8 → Bool) (bs : Bytes) :
    Over (fun b => p b = true) bs (bs.dropWhile p) :=
  ⟨bs.takeWhile p, List.takeWhile_append_dropWhile.symm, fun _ hb => List.mem_takeWhile_imp hb⟩

theorem over_readWord {α : Type} {v v' : α} {rest : Bytes} : ∀ {word bs : Bytes},
    readWord v word bs = .ok (v', rest) → Over (· ∈ word) bs rest
  | [], bs, h => by
    cases h
    exact .refl _
  | _ :: _, [], h => by cases h
  | w :: word, b :: bs, h => by
    rw [readWord] at h
    split at h
    · next same =>
      subst same
      exact .cons List.mem_cons_self
        ((over_readWord h).mono fun _ hb => List.mem_cons_of_mem _ hb)
    · cases h

/-! ### Numbers -/

/-- The bytes of numbers. -/
def IsNumeral (b : UInt8) : Prop := isDigit b = true ∨ b ∈ [0x2B, 0x2D, 0x2E, 0x45, 0x65]

section numbers

variable (positive : Bool) (significand : Nat) (start : Int) {n : Number} {bs rest : Bytes}

theorem over_dropDigits (bs : Bytes) : Over IsNumeral bs (dropDigits bs) :=
  (over_dropWhile isDigit bs).mono fun _ hb => .inl hb

theorem over_absorb (bound : Nat) : ∀ (bs : Bytes) (significand count : Nat),
    Over IsNumeral bs (absorb bound significand count bs).2.2
  | [], _, _ => .refl []
  | b :: bs, significand, count => by
    rw [absorb]
    split
    · next fits => exact .cons (.inl fits.1) (over_absorb bound bs _ _)
    · exact .refl _

variable {positive significand start}

theorem over_endDouble {exponent : Int}
    (h : endDouble positive significand exponent bs = .ok (n, rest)) : Over IsNumeral bs rest := by
  unfold endDouble at h
  split at h <;> cases h
  exact .refl _

theorem over_readExponentDigits {up : Bool}
    (h : readExponentDigits positive significand start up bs = .ok (n, rest)) :
    Over IsNumeral bs rest := by
  unfold readExponentDigits at h
  split at h
  · cases h
  · next b bs =>
    have absorbed := over_absorb (Nat.pow 2 31) bs (digitValue b) 0
    split at h
    · next digit =>
      refine .cons (.inl digit) (absorbed.trans ?_)
      dsimp only at h
      split at h
      · split at h <;> cases h
        exact over_dropDigits _
      · exact over_endDouble h
    · cases h

theorem over_readExponent (h : readExponent positive significand start bs = .ok (n, rest)) :
    Over IsNumeral bs rest := by
  unfold readExponent at h
  split at h
  · exact .cons (.inr (by decide)) (over_readExponentDigits h)
  · exact .cons (.inr (by decide)) (over_readExponentDigits h)
  · exact over_readExponentDigits h

theorem over_readExponent? (h : readExponent? positive significand start bs = .ok (n, rest)) :
    Over IsNumeral bs rest := by
  unfold readExponent? at h
  split at h
  · exact .cons (.inr (by decide)) (over_readExponent h)
  · exact .cons (.inr (by decide)) (over_readExponent h)
  · exact over_endDouble h

theorem over_readPlaces (h : readPlaces positive significand start bs = .ok (n, rest)) :
    Over IsNumeral bs rest := by
  unfold readPlaces at h
  dsimp only at h
  split at h
  · exact (over_absorb _ bs _ _).trans ((over_dropDigits _).trans (over_readExponent? h))
  · cases h

theorem over_readFraction (h : readFraction positive significand bs = .ok (n, rest)) :
    Over IsNumeral bs rest := by
  unfold readFraction at h
  split at h
  · exact .cons (.inr (by decide)) (over_readPlaces h)
  · exact .cons (.inr (by decide)) (over_readExponent h)
  · exact .cons (.inr (by decide)) (over_readExponent h)
  · cases h
    exact .refl _

theorem over_readLongFraction (h : readLongFraction positive significand start bs = .ok (n, rest)) :
    Over IsNumeral bs rest := by
  unfold readLongFraction at h
  split at h
  · exact .cons (.inr (by decide)) (over_readPlaces h)
  · exact over_readExponent? h

/-- **A number is made of the bytes of numbers.** -/
theorem over_readNumber (h : readNumber positive bs = .ok (n, rest)) : Over IsNumeral bs rest := by
  cases bs with
  | nil => cases h
  | cons b bs =>
    have absorbed := over_absorb (Nat.pow 2 64) bs (digitValue b) 0
    rw [readNumber] at h
    split at h
    · next zero =>
      subst zero
      split at h
      · cases h
      · exact .cons (.inl (by decide)) (over_readFraction h)
    · split at h
      · next digit =>
        refine .cons (.inl digit) (absorbed.trans ?_)
        dsimp only at h
        split at h
        · exact (over_dropDigits _).trans (over_readLongFraction h)
        · exact over_readFraction h
      · cases h

end numbers

/-! ### Words and numbers -/

/-- The bytes of numbers and of the words. -/
def IsBare (b : UInt8) : Prop :=
  IsNumeral b ∨ b ∈ [0x6E, 0x75, 0x6C, 0x74, 0x72, 0x65, 0x66, 0x61, 0x73]

instance : DecidablePred IsNumeral := fun _ => inferInstanceAs (Decidable (_ ∨ _))

instance : DecidablePred IsBare := fun _ => inferInstanceAs (Decidable (_ ∨ _))

/-! ### Texts -/

/-- There is no end to an escape with a digit that is none. -/
theorem skipTextFrom_digits_false {rest : Bytes} : ∀ (bs : Bytes) (count : Nat),
    skipTextFrom (.digits count false) bs ≠ .ok rest
  | [], _, h => by cases h
  | b :: bs, count, h => by
    rw [skipTextFrom] at h
    simp only [Bool.false_and, Bool.false_eq_true, if_false] at h
    split at h
    · exact skipTextFrom_digits_false bs _ h
    · cases h

/-- An escape goes on with a digit. -/
theorem hexDigit?_of_skipTextFrom {count : Nat} {fine : Bool} {b : UInt8} {bs rest : Bytes}
    (h : skipTextFrom (.digits count fine) (b :: bs) = .ok rest) :
    (hexDigit? b).isSome = true ∧ ∃ state, (state = .plain ∨ ∃ n, state = .digits n true) ∧
      skipTextFrom state bs = .ok rest := by
  rw [skipTextFrom] at h
  cases digit : fine && (hexDigit? b).isSome with
  | false =>
    rw [digit] at h
    split at h
    · exact absurd h (skipTextFrom_digits_false bs _)
    · cases h
  | true =>
    refine ⟨(Bool.and_eq_true_iff.mp digit).2, ?_⟩
    rw [digit] at h
    split at h
    · exact ⟨_, .inr ⟨_, rfl⟩, h⟩
    · exact ⟨_, .inl rfl, h⟩

theorem le_of_hexDigit? {b : UInt8} (h : (hexDigit? b).isSome = true) : 0x20 ≤ b := by
  unfold hexDigit? at h
  split at h
  · next digit => exact UInt8.le_trans (by decide) digit.1
  split at h
  · next letter => exact UInt8.le_trans (by decide) letter.1
  split at h
  · next letter => exact UInt8.le_trans (by decide) letter.1
  · cases h

theorem le_of_shortEscape? {b : UInt8} (h : (shortEscape? b).isSome = true) : 0x20 ≤ b := by
  unfold shortEscape? at h
  split at h
  · next same => rcases same with rfl | rfl | rfl <;> decide
  · repeat' split at h
    all_goals first
      | subst b
        decide
      | cases h

/-- A text ends at a byte, or goes on behind it, and the byte is no control character. -/
theorem skipTextFrom_cons {state : SkipState} {b : UInt8} {bs rest : Bytes}
    (h : skipTextFrom state (b :: bs) = .ok rest) :
    0x20 ≤ b ∧ (rest = bs ∨ ∃ state, skipTextFrom state bs = .ok rest) := by
  cases state with
  | plain =>
    rw [skipTextFrom] at h
    split at h
    · next quote =>
      cases h
      exact ⟨quote ▸ by decide, .inl rfl⟩
    split at h
    · next slash => exact ⟨slash ▸ by decide, .inr ⟨_, h⟩⟩
    split at h
    · cases h
    · next high => exact ⟨UInt8.not_lt.mp high, .inr ⟨_, h⟩⟩
  | escape =>
    rw [skipTextFrom] at h
    split at h
    · next digits => exact ⟨digits ▸ by decide, .inr ⟨_, h⟩⟩
    split at h
    · next short => exact ⟨le_of_shortEscape? short, .inr ⟨_, h⟩⟩
    · cases h
  | digits count fine =>
    obtain ⟨digit, state, -, more⟩ := hexDigit?_of_skipTextFrom h
    exact ⟨le_of_hexDigit? digit, .inr ⟨state, more⟩⟩

/-- A quote ends a text, unless a backslash stands before it. -/
theorem skipTextFrom_quote {state : SkipState} {b : UInt8} {more rest : Bytes}
    (h : skipTextFrom state (b :: 0x22 :: more) = .ok rest) (slash : b ≠ 0x5C) :
    rest = 0x22 :: more ∨ rest = more := by
  have plain (h : skipTextFrom .plain (0x22 :: more) = .ok rest) : rest = more := by
    cases h
    rfl
  have digits {n : Nat} : skipTextFrom (.digits n true) (0x22 :: more) ≠ .ok rest := fun h => by
    cases (hexDigit?_of_skipTextFrom h).1
  cases state with
  | plain =>
    rw [skipTextFrom, if_neg slash] at h
    split at h
    · cases h
      exact .inl rfl
    split at h
    · cases h
    · exact .inr (plain h)
  | escape =>
    rw [skipTextFrom] at h
    split at h
    · exact absurd h digits
    split at h
    · exact .inr (plain h)
    · cases h
  | digits count fine =>
    obtain ⟨-, state, rfl | ⟨n, rfl⟩, more⟩ := hexDigit?_of_skipTextFrom h
    · exact .inr (plain more)
    · exact absurd more digits

/-- **A text has no control characters.** -/
theorem over_skipTextFrom {rest : Bytes} : ∀ {bs : Bytes} {state : SkipState},
    skipTextFrom state bs = .ok rest → Over (0x20 ≤ ·) bs rest
  | [], state, h => by cases state <;> cases h
  | b :: bs, _, h => by
    obtain ⟨high, rfl | ⟨state, more⟩⟩ := skipTextFrom_cons h
    · exact .cons high (.refl _)
    · exact .cons high (over_skipTextFrom more)

/-- A text does not get over a quote with nothing but space between it and a byte that is no
backslash. -/
theorem suffix_of_skipTextFrom_space {more rest : Bytes} : ∀ {space : Bytes} {b : UInt8}
    {state : SkipState}, b ≠ 0x5C → (∀ c ∈ space, isSpace c = true) →
      skipTextFrom state (b :: (space ++ 0x22 :: more)) = .ok rest → more <:+ rest
  | [], _, _, slash, _, h => by
    rcases skipTextFrom_quote h slash with rfl | rfl
    · exact List.suffix_cons _ _
    · exact List.suffix_refl _
  | c :: space, b, _, _, blank, h => by
    obtain ⟨hc, blank⟩ := List.forall_mem_cons.mp blank
    obtain ⟨-, rfl | ⟨state, later⟩⟩ := skipTextFrom_cons h
    · exact (List.suffix_cons 0x22 more).trans (List.suffix_append (c :: space) _)
    · refine suffix_of_skipTextFrom_space (fun slash => ?_) blank later
      rw [slash] at hc
      cases hc

/-- **Nothing that is in quotes of its own can stand in a text.** -/
theorem suffix_of_skipTextFrom {space more rest : Bytes} {b : UInt8} (slash : b ≠ 0x5C)
    (blank : ∀ c ∈ space, isSpace c = true) : ∀ {front : Bytes} {state : SkipState},
      skipTextFrom state (front ++ b :: (space ++ 0x22 :: more)) = .ok rest → more <:+ rest
  | [], _, h => suffix_of_skipTextFrom_space slash blank h
  | c :: front, _, h => by
    obtain ⟨-, rfl | ⟨state, later⟩⟩ := skipTextFrom_cons h
    · exact ((List.suffix_cons 0x22 more).trans (List.suffix_append (b :: space) _)).trans
        (List.suffix_append front _)
    · exact suffix_of_skipTextFrom slash blank later

/-! ### Tokens -/

/-- The bytes that tokens begin with. -/
def tokenBytes : Bytes :=
  [0x5B, 0x5D, 0x7B, 0x7D, 0x2C, 0x3A, 0x22, 0x2D, 0x30, 0x31, 0x32, 0x33, 0x34, 0x35, 0x36, 0x37,
   0x38, 0x39, 0x6E, 0x74, 0x66]

/-- Behind space there is a token, or nothing. -/
def TokenNext (bs : Bytes) : Prop := ∀ b ∈ (skipSpace bs).head?, b ∈ tokenBytes

/-- Behind each line feed there is a token next, or nothing. -/
def Calm (bs : Bytes) : Prop := ∀ behind, 0x0A :: behind <:+ bs → TokenNext behind

theorem skipSpace_skipSpace (bs : Bytes) : skipSpace (skipSpace bs) = skipSpace bs :=
  List.dropWhile_idempotent isSpace bs

theorem tokenNext_cons {b : UInt8} {bs : Bytes} (token : b ∈ tokenBytes) :
    TokenNext (b :: bs) := by
  intro c hc
  have none : ∀ t ∈ tokenBytes, isSpace t = false := by simp [tokenBytes, isSpace]
  rw [skipSpace_cons (none b token)] at hc
  cases hc
  exact token

theorem tokenNext_of_skipSpace {b : UInt8} {bs rest : Bytes} (next : skipSpace bs = b :: rest)
    (token : b ∈ tokenBytes) : TokenNext bs := by
  rw [TokenNext, next]
  rintro _ ⟨⟩
  exact token

namespace Calm

variable {bs rest : Bytes} {b : UInt8}

theorem nil : Calm [] := fun behind h => by cases List.suffix_nil.mp h

theorem of_suffix (h : Calm bs) (suffix : rest <:+ bs) : Calm rest :=
  fun behind hbehind => h behind (hbehind.trans suffix)

theorem cons (h : Calm bs) (other : b ≠ 0x0A) : Calm (b :: bs) := by
  intro behind hbehind
  rcases List.suffix_cons_iff.mp hbehind with same | inside
  · cases same
    exact absurd rfl other
  · exact h behind inside

theorem append (h : Calm bs) : ∀ {front : Bytes}, 0x0A ∉ front → Calm (front ++ bs)
  | [], _ => h
  | c :: front, inside => by
    obtain ⟨first, later⟩ := not_or.mp fun h => inside (List.mem_cons.mpr h)
    exact (h.append later).cons (Ne.symm first)

/-- Space in front of a token, or of nothing, does no harm. -/
theorem of_skipSpace (next : TokenNext bs) (h : Calm (skipSpace bs)) : Calm bs := by
  induction bs with
  | nil => exact nil
  | cons c bs ih =>
    by_cases space : isSpace c = true
    · have same : skipSpace (c :: bs) = skipSpace bs := List.dropWhile_cons_of_pos space
      rw [TokenNext, same] at next
      rw [same] at h
      intro behind hbehind
      rcases List.suffix_cons_iff.mp hbehind with heq | inside
      · cases heq
        exact next
      · exact ih next h behind inside
    · rwa [skipSpace, List.dropWhile_cons_of_neg space] at h

end Calm

/-! ### Values -/

/-- A reader that got here from there has left a part of it, and between the tokens that it got
over there is nothing but space. -/
structure Passes (bs rest : Bytes) : Prop where
  suffix : rest <:+ bs
  calm : Calm rest → Calm bs

namespace Passes

variable {bs bs' rest : Bytes} {b : UInt8}

theorem refl (bs : Bytes) : Passes bs bs := ⟨List.suffix_refl bs, id⟩

theorem trans (h : Passes bs bs') (h' : Passes bs' rest) : Passes bs rest :=
  ⟨h'.suffix.trans h.suffix, fun calm => h.calm (h'.calm calm)⟩

theorem byte (other : b ≠ 0x0A) (h : Passes bs rest) : Passes (b :: bs) rest :=
  ⟨h.suffix.trans (List.suffix_cons b bs), fun calm => (h.calm calm).cons other⟩

theorem of_over {P : UInt8 → Prop} (h : Over P bs rest) (other : ¬ P 0x0A) : Passes bs rest := by
  obtain ⟨front, rfl, hfront⟩ := h
  exact ⟨List.suffix_append front rest, fun calm => calm.append fun h => other (hfront _ h)⟩

/-- Space is got over if a token is behind it. -/
theorem space (next : skipSpace bs = b :: rest) (token : b ∈ tokenBytes) : Passes bs (b :: rest) :=
  ⟨next ▸ List.dropWhile_suffix _,
    fun calm => .of_skipSpace (tokenNext_of_skipSpace next token) (next ▸ calm)⟩

theorem toNext (next : TokenNext (skipSpace bs)) : Passes bs (skipSpace bs) := by
  refine ⟨List.dropWhile_suffix _, .of_skipSpace ?_⟩
  rwa [TokenNext, skipSpace_skipSpace] at next

/-- A token is got over with the space before it. -/
theorem token (next : skipSpace bs = b :: rest) (token : b ∈ tokenBytes) : Passes bs rest := by
  refine (space next token).trans (byte ?_ (refl rest))
  rintro rfl
  exact absurd token (by decide)

end Passes

theorem mem_tokenBytes_of_isDigit {b : UInt8} (h : isDigit b = true) : b ∈ tokenBytes := by
  have digits : ∀ n < 58, 48 ≤ n → UInt8.ofNat n ∈ tokenBytes := by decide
  simp only [isDigit, Bool.and_eq_true, decide_eq_true_eq, UInt8.le_iff_toNat_le] at h
  have mem := digits b.toNat (Nat.lt_succ_of_le h.2) h.1
  rwa [UInt8.ofNat_toNat] at mem

section readers

variable {bs rest : Bytes} {v : Json}

/-- **A scalar is a text, or has nothing but the bytes of words and numbers.** -/
theorem readScalar_cases {b : UInt8} (h : readScalar b bs = .ok (v, rest)) : b ∈ tokenBytes ∧
    ((b = 0x22 ∧ ∃ s, readText bs = .ok (s, rest)) ∨ Over IsBare (b :: bs) rest) := by
  have word {w : Json} (word : Bytes) (letters : ∀ c ∈ word, IsBare c)
      (h : readWord w word bs = .ok (v, rest)) (first : IsBare b) : Over IsBare (b :: bs) rest :=
    .cons first ((over_readWord h).mono letters)
  unfold readScalar at h
  split at h
  · next hb =>
    subst hb
    exact ⟨by decide, .inr (word _ (by simp [IsBare]) h (by decide))⟩
  split at h
  · next hb =>
    subst hb
    exact ⟨by decide, .inr (word _ (by simp [IsBare]) h (by decide))⟩
  split at h
  · next hb =>
    subst hb
    exact ⟨by decide, .inr (word _ (by simp [IsBare]) h (by decide))⟩
  split at h
  · next hb =>
    subst hb
    split at h <;> cases h
    next s hread => exact ⟨by decide, .inl ⟨rfl, s, hread⟩⟩
  split at h
  · next hb =>
    subst hb
    split at h <;> cases h
    next n hread =>
      exact ⟨by decide, .inr (.cons (by decide) ((over_readNumber hread).mono fun _ => .inl))⟩
  split at h
  · next digit =>
    split at h <;> cases h
    next n hread =>
      exact ⟨mem_tokenBytes_of_isDigit digit, .inr ((over_readNumber hread).mono fun _ => .inl)⟩
  · cases h

theorem passes_readText {s : String} (h : readText bs = .ok (s, rest)) : Passes bs rest :=
  .of_over (over_skipTextFrom (skipTextFrom_of_read bs h)) (by decide)

theorem passes_readScalar {b : UInt8} (h : readScalar b bs = .ok (v, rest)) :
    Passes (b :: bs) rest := by
  obtain ⟨-, ⟨rfl, s, hread⟩ | bare⟩ := readScalar_cases h
  · exact .byte (by decide) (passes_readText hread)
  · exact .of_over bare (by decide)

/-- A reader gets over tokens and the space before them. -/
def PassesAll (reader : Bytes → Read Json) : Prop :=
  ∀ bs v rest, reader bs = .ok (v, rest) → TokenNext bs ∧ Passes bs rest

variable {reader : Bytes → Read Json} (each : PassesAll reader)

include each

theorem passes_readItems : ∀ {limit : Nat} {acc vs : List Json} {bs rest : Bytes},
    readItems reader limit acc bs = .ok (vs, rest) → TokenNext bs ∧ Passes bs rest
  | 0, _, _, _, _, h => by cases h
  | limit + 1, acc, vs, bs, rest, h => by
    rw [readItems] at h
    split at h
    · cases h
    · next v behind hitem =>
      obtain ⟨next, item⟩ := each bs v behind hitem
      refine ⟨next, item.trans ?_⟩
      split at h
      · next hclose =>
        cases h
        exact .token hclose (by decide)
      · next hcomma =>
        refine (Passes.token hcomma (by decide)).trans ?_
        split at h
        · cases h
        · cases h
        · obtain ⟨next, more⟩ := passes_readItems h
          exact (Passes.toNext next).trans more
      · cases h
      · cases h

theorem passes_readList {limit : Nat} {vs : List Json}
    (h : readList reader limit bs = .ok (vs, rest)) : Passes bs rest := by
  unfold readList at h
  split at h
  · cases h
  · next hclose =>
    cases h
    exact .token hclose (by decide)
  · obtain ⟨next, items⟩ := passes_readItems each h
    exact (Passes.toNext next).trans items

theorem passes_readMember {acc acc' : List (String × Json)} {key : String}
    (h : readMember reader acc key bs = .ok (acc', rest)) : Passes bs rest ∧ acc' ≠ [] := by
  unfold readMember readColon at h
  split at h
  · cases h
  · next behind hcolon =>
    split at hcolon <;> cases hcolon
    next hcolon =>
    split at h <;> cases h
    next v hvalue =>
    exact ⟨(Passes.token hcolon (by decide)).trans (each _ v _ hvalue).2, List.cons_ne_nil _ _⟩

/-- **The members of an object begin with a quote and end with a closing brace.** -/
theorem passes_readMembersFrom : ∀ {limit : Nat} {acc ms : List (String × Json)} {bs rest : Bytes},
    readMembersFrom (readMember reader) limit acc bs = .ok (ms, rest) →
      bs.head? = some 0x22 ∧ Passes bs (0x7D :: rest)
  | 0, _, _, _, _, h => by cases h
  | _ + 1, _, _, [], _, h => by cases h
  | limit + 1, acc, ms, b :: bs, rest, h => by
    rw [readMembersFrom] at h
    split at h
    · next quote =>
      subst quote
      refine ⟨rfl, .byte (by decide) ?_⟩
      split at h
      · cases h
      · next key behind hkey =>
        refine (passes_readText hkey).trans ?_
        split at h
        · cases h
        · next acc' behind' hmember =>
          refine (passes_readMember each hmember).1.trans ?_
          split at h
          · next hclose =>
            cases h
            exact .space hclose (by decide)
          · next hcomma =>
            refine (Passes.token hcomma (by decide)).trans ?_
            split at h
            · cases h
            · obtain ⟨first, more⟩ := passes_readMembersFrom h
              obtain ⟨tail, heq⟩ := List.head?_eq_some_iff.mp first
              exact (Passes.toNext (heq ▸ tokenNext_cons (by decide))).trans more
          · cases h
          · cases h
    · cases h

/-- **An object is got over up to a closing brace**, and one that is not empty begins with a quote. -/
theorem passes_readMembers {limit : Nat} {ms : List (String × Json)}
    (h : readMembers (readMember reader) limit [] bs = .ok (ms, rest)) :
    (ms = [] ∨ ∃ more, skipSpace bs = 0x22 :: more) ∧ Passes bs (0x7D :: rest) := by
  unfold readMembers at h
  split at h
  · cases h
  · next hclose =>
    cases h
    exact ⟨.inl rfl, .space hclose (by decide)⟩
  · obtain ⟨first, members⟩ := passes_readMembersFrom each h
    obtain ⟨tail, heq⟩ := List.head?_eq_some_iff.mp first
    exact ⟨.inr ⟨tail, heq⟩, (Passes.toNext (heq ▸ tokenNext_cons (by decide))).trans members⟩

end readers

/-! ### Whole values -/

/-- What a value is, by the first byte behind the space in front of it. -/
inductive Passed (bs rest : Bytes) : Json → Prop where
  | array {more : Bytes} {vs : List Json} (next : skipSpace bs = 0x5B :: more)
      (passes : Passes more rest) : Passed bs rest (.array vs)
  | object {more : Bytes} {ms : List (String × Json)} (next : skipSpace bs = 0x7B :: more)
      (filled : ms = [] ∨ ∃ more', skipSpace more = 0x22 :: more')
      (passes : Passes more (0x7D :: rest)) : Passed bs rest (.object ms)
  | scalar {b : UInt8} {more : Bytes} {v : Json} (next : skipSpace bs = b :: more)
      (read : readScalar b more = .ok (v, rest)) : Passed bs rest v

theorem Passed.passes {bs rest : Bytes} {v : Json} (h : Passed bs rest v) :
    TokenNext bs ∧ Passes bs rest := by
  cases h with
  | array next passes =>
    exact ⟨tokenNext_of_skipSpace next (by decide), (Passes.token next (by decide)).trans passes⟩
  | object next _ passes =>
    exact ⟨tokenNext_of_skipSpace next (by decide), (Passes.token next (by decide)).trans
      (passes.trans (.byte (by decide) (.refl rest)))⟩
  | scalar next read =>
    have token := (readScalar_cases read).1
    exact ⟨tokenNext_of_skipSpace next token, (Passes.space next token).trans
      (passes_readScalar read)⟩

/-- **What is read of a value is what a value is got over by.** -/
theorem passed_readValue (limit : Nat) : ∀ (depth : Nat) {bs rest : Bytes} {v : Json},
    readValue limit depth bs = .ok (v, rest) → Passed bs rest v
  | depth, bs, rest, v, h => by
    unfold readValue at h
    split at h
    · cases h
    · next b more next =>
      split at h
      · next list =>
        subst list
        cases depth with
        | zero => cases h
        | succ depth =>
          have each : PassesAll (readValue limit depth) := fun bs v rest h =>
            (passed_readValue limit depth h).passes
          dsimp only at h
          split at h <;> cases h
          next hread => exact .array next (passes_readList each hread)
      split at h
      · next object =>
        subst object
        cases depth with
        | zero => cases h
        | succ depth =>
          have each : PassesAll (readValue limit depth) := fun bs v rest h =>
            (passed_readValue limit depth h).passes
          dsimp only at h
          split at h <;> cases h
          next ms hread =>
            obtain ⟨filled, passes⟩ := passes_readMembers each hread
            exact .object next (filled.imp_left fun empty => by rw [empty]; rfl) passes
      · exact .scalar next h

/-- A text that holds a value holds nothing behind it but space. -/
theorem passed_of_parse {bs : Bytes} {v : Json} (h : parse bs = .ok v) :
    ∃ rest, Passed bs rest v ∧ ∀ b ∈ rest, isSpace b = true := by
  unfold parse readWhole at h
  dsimp only at h
  split at h
  · cases h
  · next v' rest hread =>
    split at h <;> cases h
    next hend =>
    refine ⟨rest, passed_readValue _ _ hread, ?_⟩
    unfold readEnd at hend
    split at hend
    · next hspace => exact List.dropWhile_eq_nil_iff.mp hspace
    · cases hend

/-- An object that is not empty has a quote as its first token. -/
theorem exists_quote_of_parse {bs : Bytes} {v : Json} (h : parse (0x7B :: bs) = .ok v)
    (filled : v ≠ .object []) :
    ∃ space more, bs = space ++ 0x22 :: more ∧ ∀ b ∈ space, isSpace b = true := by
  obtain ⟨rest, passed, -⟩ := passed_of_parse h
  cases passed with
  | array next =>
    rw [skipSpace_cons (by decide)] at next
    cases next
  | object next first =>
    rw [skipSpace_cons (by decide)] at next
    cases next
    obtain rfl | ⟨more, quote⟩ := first
    · exact absurd rfl filled
    · refine ⟨bs.takeWhile isSpace, more, ?_, fun b hb => List.mem_takeWhile_imp hb⟩
      rw [← quote]
      exact List.takeWhile_append_dropWhile.symm
  | scalar next read =>
    rw [skipSpace_cons (by decide)] at next
    cases next
    cases read

/-- **In a text that holds a value there is a token behind each line feed, or nothing.** -/
theorem calm_of_parse {bs : Bytes} {v : Json} (h : parse bs = .ok v) : TokenNext bs ∧ Calm bs := by
  obtain ⟨rest, passed, space⟩ := passed_of_parse h
  have nothing : skipSpace rest = [] := List.dropWhile_eq_nil_iff.mpr space
  have calm : Calm rest := .of_skipSpace (by rw [TokenNext, nothing]; exact nofun)
    (nothing ▸ .nil)
  exact ⟨passed.passes.1, passed.passes.2.calm calm⟩

end SessionWatch.Json
