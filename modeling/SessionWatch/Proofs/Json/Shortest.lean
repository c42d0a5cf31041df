/-
# How short a line can be

A text can be written in many ways, but in none that is shorter than between
quotes with each character as it is, or with the shortest escape that there is
for it. Readers never give back more bytes than they got, so what a line is
read as bounds its length from below.

Key definitions: `Json.byteCost`, `Json.textCost`, `Json.Spends`, `Json.leastBytes`.
Key theorems: `Json.spends_readText`, `Json.spends_readValue`, `Json.leastBytes_le`.
-/
import SessionWatch.Json.Reader
import SessionWatch.Proofs.Json.Passage

namespace SessionWatch.Json

open Text

/-! ### Texts -/

/-- The bytes that a byte of a text takes at least. -/
def byteCost (b : UInt8) : Nat :=
  if b = 0x22 ∨ b = 0x5C ∨ b = 0x08 ∨ b = 0x09 ∨ b = 0x0A ∨ b = 0x0C ∨ b = 0x0D then 2
  else if b < 0x20 then 6
  else 1

/-- The bytes that a text takes at least, without its quotes. -/
def textCost : Bytes → Nat
  | [] => 0
  | b :: bs => byteCost b + textCost bs

@[simp] theorem textCost_nil : textCost [] = 0 := rfl

@[simp] theorem textCost_cons (b : UInt8) (bs : Bytes) :
    textCost (b :: bs) = byteCost b + textCost bs := rfl

@[simp] theorem textCost_append (as bs : Bytes) :
    textCost (as ++ bs) = textCost as + textCost bs := by
  induction as with
  | nil => exact (Nat.zero_add _).symm
  | cons a as ih => rw [List.cons_append, textCost_cons, textCost_cons, ih, Nat.add_assoc]

@[simp] theorem textCost_reverse (bs : Bytes) : textCost bs.reverse = textCost bs := by
  induction bs with
  | nil => rfl
  | cons b bs ih =>
    rw [List.reverse_cons, textCost_append, ih, textCost_cons, textCost_cons, textCost_nil]
    omega

/-- A byte that may stand in a text as it is takes one byte. -/
theorem byteCost_plain {b : UInt8} (quote : b ≠ 0x22) (slash : b ≠ 0x5C) (low : ¬ b < 0x20) :
    byteCost b = 1 := by
  have small (d : UInt8) (hd : d < 0x20) : b ≠ d := fun h => low (h ▸ hd)
  simp [byteCost, quote, slash, low, small 0x08 (by decide), small 0x09 (by decide),
    small 0x0A (by decide), small 0x0C (by decide), small 0x0D (by decide)]

theorem byteCost_of_le {b : UInt8} (h : 128 ≤ b.toNat) : byteCost b = 1 := by
  refine byteCost_plain ?_ ?_ ?_
  · rintro rfl
    exact absurd h (by decide)
  · rintro rfl
    exact absurd h (by decide)
  · intro low
    have := UInt8.lt_iff_toNat_lt.mp low
    exact absurd h (by simp at this ⊢; omega)

theorem byteCost_le (b : UInt8) : byteCost b ≤ 6 := by
  unfold byteCost
  split
  · decide
  · split <;> decide

/-- What a short escape stands for takes at most two bytes. -/
theorem byteCost_shortEscape {b c : UInt8} (h : shortEscape? b = some c) : byteCost c ≤ 2 := by
  unfold shortEscape? at h
  split at h
  · next same =>
    cases h
    rcases same with rfl | rfl | rfl <;> decide
  · repeat' split at h
    all_goals cases h
    all_goals decide

/-- The bytes of a character beyond the first 128 may stand in a text as they are. -/
theorem textCost_high {bs : Bytes} (h : ∀ b ∈ bs, 128 ≤ b.toNat) : textCost bs = bs.length := by
  induction bs with
  | nil => rfl
  | cons b bs ih =>
    rw [List.forall_mem_cons] at h
    rw [textCost_cons, byteCost_of_le h.1, ih h.2, List.length_cons, Nat.add_comm]

/-- A character takes at most six bytes. -/
theorem textCost_char_le (c : Char) : textCost (String.utf8EncodeChar c) ≤ 6 := by
  by_cases low : c.toNat < 128
  · rw [utf8EncodeChar_of_lt low]
    exact byteCost_le _
  · rw [textCost_high fun b => le_of_mem_utf8EncodeChar (Nat.le_of_not_lt low),
      String.length_utf8EncodeChar]
    exact Nat.le_trans c.utf8Size_le_four (by decide)

/-- The digits of a control character without a short escape are as short as can be. -/
theorem length_control : ∀ n < 32, shortEscapes.lookup (Char.ofNat n) = none →
    (encode (escapeChar (Char.ofNat n))).length = textCost (String.utf8EncodeChar (Char.ofNat n)) := by
  decide

/-- A printable character that needs no escape takes one byte. -/
theorem byteCost_printable : ∀ n < 128, 32 ≤ n → n ≠ '"'.toNat → n ≠ '\\'.toNat →
    byteCost (UInt8.ofNat n) = 1 := by
  decide

/-- What stands for a character is as short as can be. -/
theorem length_escapeBytes (c : Char) :
    (escapeBytes c).length = textCost (String.utf8EncodeChar c) := by
  have value : Char.ofNat c.toNat = c := Char.ofNat_toNat c
  cases hmark : shortEscapes.lookup c with
  | some mark =>
    have hmem := mem_shortEscapes hmark
    simp only [shortEscapes, List.mem_cons, Prod.mk.injEq, List.not_mem_nil, or_false] at hmem
    rcases hmem with ⟨rfl, rfl⟩ | ⟨rfl, rfl⟩ | ⟨rfl, rfl⟩ | ⟨rfl, rfl⟩ | ⟨rfl, rfl⟩ | ⟨rfl, rfl⟩ |
      ⟨rfl, rfl⟩ <;> rfl
  | none =>
    by_cases control : c.toNat < 32
    · have same := length_control c.toNat control
      rw [value] at same
      exact same hmark
    · have itself : escapeBytes c = String.utf8EncodeChar c := by
        simp [escapeBytes, escapeChar, hmark, control]
      rw [itself]
      by_cases low : c.toNat < 128
      · rw [utf8EncodeChar_of_lt low]
        have apart (d : Char) (hd : (shortEscapes.lookup d).isSome) : c.toNat ≠ d.toNat := by
          intro heq
          rw [← Char.toNat_inj.mp heq, hmark] at hd
          cases hd
        have one := byteCost_printable c.toNat low (Nat.le_of_not_lt control) (apart '"' rfl)
          (apart '\\' rfl)
        simp [one]
      · rw [textCost_high fun b => le_of_mem_utf8EncodeChar (Nat.le_of_not_lt low)]

/-- What stands for a text is as short as can be. -/
theorem length_quotedBytes (s : String) : (quotedBytes s).length = textCost (utf8 s) + 2 := by
  have chars (cs : List Char) : (cs.flatMap escapeBytes).length = textCost (encode cs) := by
    induction cs with
    | nil => rfl
    | cons c cs ih => simp [length_escapeBytes, ih]
  simp [quotedBytes, chars, utf8_eq_encode]

/-- The bytes that have been read of what is not a part of a text yet. -/
def TextState.spent : TextState → Nat
  | .plain => 0
  | .escape => 1
  | .digits none count _ => 2 + count
  | .backslash _ => 6
  | .letter _ => 7
  | .digits (some _) count _ => 8 + count

/-- What four digits stand for takes no more than the six bytes they come in, also if it is the
other half of a pair that is waited for. -/
theorem spent_endDigits {lead value : Option Nat} {state : TextState} {bytes : Bytes}
    (h : endDigits lead value = .ok (state, bytes)) :
    textCost bytes + state.spent ≤ 6 := by
  unfold endDigits at h
  split at h
  · cases h
  · split at h
    · cases h
    · split at h
      · cases h
        exact Nat.le_refl 6
      · cases h
        rw [TextState.spent, Nat.add_zero]
        exact textCost_char_le _
  · split at h
    · cases h
      rw [TextState.spent, Nat.add_zero]
      exact textCost_char_le _
    · cases h

/-- A reader of a text takes at least the bytes that the text needs. -/
theorem cost_readTextFrom : ∀ (bs : Bytes) {acc : Bytes} {state : TextState} {s : String}
    {rest : Bytes}, readTextFrom acc state bs = .ok (s, rest) →
      rest.length + 1 + textCost (utf8 s) ≤ bs.length + textCost acc + state.spent
  | [], _, state, _, _, h => by cases state <;> cases h
  | b :: bs, acc, state, s, rest, h => by
    have ih {acc : Bytes} {state : TextState} : readTextFrom acc state bs = .ok (s, rest) →
        rest.length + 1 + textCost (utf8 s) ≤ bs.length + textCost acc + state.spent :=
      cost_readTextFrom bs
    rw [List.length_cons]
    cases state with
    | plain =>
      rw [readTextFrom] at h
      by_cases quote : b = 0x22
      · rw [if_pos quote] at h
        split at h
        · next text htext =>
          cases h
          rw [utf8_of_ofUtf8? htext, textCost_reverse]
          exact Nat.le_of_eq (by simp [TextState.spent])
        · cases h
      rw [if_neg quote] at h
      by_cases slash : b = 0x5C
      · rw [if_pos slash] at h
        have := ih h
        simp only [TextState.spent] at this ⊢
        omega
      rw [if_neg slash] at h
      by_cases control : b < 0x20
      · rw [if_pos control] at h
        cases h
      · rw [if_neg control] at h
        have := ih h
        rw [textCost_cons, byteCost_plain quote slash control] at this
        omega
    | escape =>
      rw [readTextFrom] at h
      by_cases digits : b = 0x75
      · rw [if_pos digits] at h
        have := ih h
        simp only [TextState.spent] at this ⊢
        omega
      rw [if_neg digits] at h
      cases short : shortEscape? b with
      | none =>
        rw [short] at h
        cases h
      | some c =>
        rw [short] at h
        have read := ih h
        have paid := byteCost_shortEscape short
        rw [textCost_cons] at read
        simp only [TextState.spent] at read ⊢
        omega
    | digits lead count value =>
      rw [readTextFrom] at h
      generalize (value.bind fun v => (hexDigit? b).map (v * 16 + ·)) = value at h
      by_cases more : count < 3
      · rw [if_pos more] at h
        have := ih h
        cases lead <;> simp only [TextState.spent] at this ⊢ <;> omega
      rw [if_neg more] at h
      cases ended : endDigits lead value with
      | error m =>
        rw [ended] at h
        cases h
      | ok p =>
        obtain ⟨state, bytes⟩ := p
        rw [ended] at h
        have read := ih h
        have paid := spent_endDigits ended
        rw [textCost_append, textCost_reverse] at read
        cases lead <;> simp only [TextState.spent] <;> omega
    | backslash lead =>
      rw [readTextFrom] at h
      split at h
      · have := ih h
        simp only [TextState.spent] at this ⊢
        omega
      · cases h
    | letter lead =>
      rw [readTextFrom] at h
      split at h
      · have := ih h
        simp only [TextState.spent] at this ⊢
        omega
      · cases h

/-! ### What readers leave -/

/-- What is read is paid for with the bytes that are gone. -/
def Spends {α : Type} (cost : α → Nat) (bs : Bytes) (r : Read α) : Prop :=
  ∀ v rest, r = .ok (v, rest) → rest.length + cost v ≤ bs.length

section spends

variable {α : Type} {cost : α → Nat} {bs bs' : Bytes}

theorem Spends.error (f : Fault) : Spends cost bs (.error f) := nofun

theorem Spends.ok {v : α} {rest : Bytes} (h : rest.length + cost v ≤ bs.length) :
    Spends cost bs (.ok (v, rest)) := by
  rintro v' rest' ⟨⟩
  exact h

theorem Spends.mono {r : Read α} (h : Spends cost bs r) (longer : bs.length ≤ bs'.length) :
    Spends cost bs' r :=
  fun v rest hr => Nat.le_trans (h v rest hr) longer

end spends

theorem length_skipSpace_le (bs : Bytes) : (skipSpace bs).length ≤ bs.length :=
  (List.dropWhile_suffix _).length_le

/-- **A text costs at least its shortest form.** -/
theorem spends_readText (bs : Bytes) :
    Spends (fun s => (quotedBytes s).length) (0x22 :: bs) (readText bs) := by
  intro s rest h
  have read := cost_readTextFrom bs h
  dsimp only
  rw [length_quotedBytes, List.length_cons]
  simp only [textCost_nil, TextState.spent] at read
  omega

/-- A word stands for a value that needs nothing. -/
theorem spends_readWord {α : Type} {cost : α → Nat} {v : α} (free : cost v = 0) :
    ∀ word bs : Bytes, Spends cost bs (readWord v word bs)
  | [], bs => .ok (by simp [free])
  | _ :: _, [] => .error _
  | w :: word, b :: bs => by
    rw [readWord]
    split
    · exact (spends_readWord free word bs).mono (Nat.le_succ _)
    · exact .error _

/-! ### Values -/

/-- The bytes that a value takes at least, if it is a text. -/
def textBytes : Json → Nat
  | .string s => (quotedBytes s).length
  | .null | .bool _ | .number _ | .array _ | .object _ => 0

/-- The bytes that members of an object take at least, each with its colon and with the comma or the
brace behind it. -/
def memberBytes : List (String × Json) → Nat
  | [] => 0
  | m :: ms => (quotedBytes m.1).length + textBytes m.2 + 2 + memberBytes ms

/-- The bytes that a value takes at least, if it is a text or an object. -/
def leastBytes : Json → Nat
  | .object ms => 1 + memberBytes ms
  | v => textBytes v

/-- A reader of values takes what they need. -/
def SpendsAll (reader : Bytes → Read Json) : Prop := ∀ bs, Spends leastBytes bs (reader bs)

theorem textBytes_le (v : Json) : textBytes v ≤ leastBytes v := by
  cases v <;> simp [leastBytes, textBytes]

theorem spends_readScalar (b : UInt8) (bs : Bytes) :
    Spends leastBytes (b :: bs) (readScalar b bs) := by
  have word {v : Json} (free : leastBytes v = 0) (word : Bytes) :
      Spends leastBytes (b :: bs) (readWord v word bs) :=
    (spends_readWord free word bs).mono (Nat.le_succ _)
  have number {positive : Bool} {bs' rest : Bytes} {n : Number}
      (h : readNumber positive bs' = .ok (n, rest)) (shorter : bs'.length ≤ (b :: bs).length) :
      Spends leastBytes (b :: bs) (.ok (.number n, rest)) :=
    .ok (Nat.le_trans (over_readNumber h).suffix.length_le shorter)
  unfold readScalar
  split
  · exact word rfl _
  split
  · exact word rfl _
  split
  · exact word rfl _
  split
  · split
    · exact .error _
    · next hread => exact .ok (spends_readText bs _ _ hread)
  split
  · split
    · exact .error _
    · next hread => exact number hread (Nat.le_succ _)
  split
  · split
    · exact .error _
    · next hread => exact number hread (Nat.le_refl _)
  · exact .error _

section readers

variable {reader : Bytes → Read Json}

theorem length_readColon {bs rest : Bytes} (h : readColon bs = .ok rest) :
    rest.length + 1 ≤ bs.length := by
  have gap := length_skipSpace_le bs
  unfold readColon at h
  split at h
  · next heq =>
    cases h
    rw [heq, List.length_cons] at gap
    exact gap
  · cases h
  · cases h

/-- A member pays for its colon and its value. -/
theorem memberBytes_readMember (h : SpendsAll reader) {acc acc' : List (String × Json)}
    {key : String} {bs rest : Bytes} (hmember : readMember reader acc key bs = .ok (acc', rest)) :
    rest.length + memberBytes acc' ≤ bs.length + memberBytes acc + (quotedBytes key).length + 1 := by
  unfold readMember at hmember
  split at hmember
  · cases hmember
  · next value hcolon =>
    split at hmember
    · cases hmember
    · next v rest' hvalue =>
      cases hmember
      have colon := length_readColon hcolon
      have paid := h _ _ _ hvalue
      have least := textBytes_le v
      rw [memberBytes]
      dsimp only
      omega

/-- Members pay for their keys and for the commas and the brace behind them as well. -/
theorem memberBytes_readMembersFrom (h : SpendsAll reader) : ∀ (limit : Nat)
    {acc acc' : List (String × Json)} {bs rest : Bytes},
    readMembersFrom (readMember reader) limit acc bs = .ok (acc', rest) →
      rest.length + memberBytes acc' ≤ bs.length + memberBytes acc
  | 0, _, _, _, _, hread => by cases hread
  | _ + 1, _, _, [], _, hread => by cases hread
  | limit + 1, acc, acc', b :: bs, rest, hread => by
    rw [readMembersFrom] at hread
    split at hread
    · next quote =>
      split at hread
      · cases hread
      · next key rest₁ hkey =>
        have paid := spends_readText bs key rest₁ hkey
        split at hread
        · cases hread
        · next acc₁ rest₂ hmember =>
          have member := memberBytes_readMember h hmember
          have gap := length_skipSpace_le rest₂
          simp only [List.length_cons] at paid ⊢
          split at hread
          · next heq =>
            cases hread
            rw [heq, List.length_cons] at gap
            omega
          · next rest₃ heq =>
            rw [heq, List.length_cons] at gap
            have gap' := length_skipSpace_le rest₃
            split at hread
            · cases hread
            · have more := memberBytes_readMembersFrom h limit hread
              omega
          · cases hread
          · cases hread
    · cases hread

theorem memberBytes_readMembers (h : SpendsAll reader) {limit : Nat}
    {ms : List (String × Json)} {bs rest : Bytes}
    (hread : readMembers (readMember reader) limit [] bs = .ok (ms, rest)) :
    rest.length + memberBytes ms ≤ bs.length := by
  have gap := length_skipSpace_le bs
  unfold readMembers at hread
  split at hread
  · cases hread
  · next heq =>
    cases hread
    rw [heq, List.length_cons] at gap
    exact Nat.le_of_succ_le gap
  · exact Nat.le_trans (memberBytes_readMembersFrom h limit hread) gap

end readers

/-- What members take does not depend on their order. -/
theorem memberBytes_perm {ms ms' : List (String × Json)} (h : ms.Perm ms') :
    memberBytes ms = memberBytes ms' := by
  induction h with
  | nil => rfl
  | cons m _ ih => rw [memberBytes, memberBytes, ih]
  | swap m m' ms =>
    simp only [memberBytes]
    omega
  | trans _ _ ih ih' => exact ih.trans ih'

/-- **A value takes at least the bytes of its texts.** -/
theorem spends_readValue (limit : Nat) : ∀ depth : Nat, SpendsAll (readValue limit depth)
  | depth, bs => by
    have gap := length_skipSpace_le bs
    unfold readValue
    split
    · exact .error _
    · next b rest heq =>
      rw [heq] at gap
      split
      · cases depth with
        | zero => exact .error _
        | succ depth =>
          dsimp only
          split
          · exact .error _
          · next items rest' hread =>
            have each : PassesAll (readValue limit depth) := fun _ _ _ h =>
              (passed_readValue limit depth h).passes
            have list := (passes_readList each hread).suffix.length_le
            exact .ok (Nat.le_trans (Nat.le_succ_of_le list) gap)
      split
      · cases depth with
        | zero => exact .error _
        | succ depth =>
          dsimp only
          split
          · exact .error _
          · next ms rest' hread =>
            have members := memberBytes_readMembers (spends_readValue limit depth) hread
            rw [List.length_cons] at gap
            refine .ok ?_
            rw [leastBytes, memberBytes_perm ms.reverse_perm]
            omega
      · exact (spends_readScalar b rest).mono gap

/-- **A line is at least as long as the texts that are read off it.** -/
theorem leastBytes_le {bs : Bytes} {v : Json} (h : parse bs = .ok v) :
    leastBytes v ≤ bs.length := by
  unfold parse readWhole at h
  dsimp only at h
  split at h
  · cases h
  · next v' rest hread =>
    have paid := spends_readValue _ _ _ _ _ hread
    split at h
    · cases h
    · cases h
      exact Nat.le_trans (Nat.le_add_left _ _) paid

/-! ### Two members -/

/-- Members of an object take at least what two different ones of them take. -/
theorem memberBytes_pair {ms : List (String × Json)} {m m' : String × Json} (hm : m ∈ ms)
    (hm' : m' ∈ ms) (apart : m ≠ m') : memberBytes [m, m'] ≤ memberBytes ms := by
  obtain ⟨before, after, rfl⟩ := List.append_of_mem hm
  have front : (before ++ m :: after).Perm (m :: (before ++ after)) := List.perm_middle
  have other : m' ∈ before ++ after := (List.mem_cons.mp (front.mem_iff.mp hm')).resolve_left
    (Ne.symm apart)
  obtain ⟨before', after', rest⟩ := List.append_of_mem other
  rw [rest] at front
  rw [memberBytes_perm (front.trans (List.perm_middle.cons m))]
  simp only [memberBytes]
  omega

end SessionWatch.Json
