/-
# Lines of words

A line whose words and bars stand apart by blanks is read as these words and
bars. Words alone are one simple command, unless the first of them begins or
ends a compound one; words around a bar are two simple commands, the first of
which feeds the second.

Key definitions: `Shell.Stands`, `Shell.Token.isInline`, `Shell.BeginsCommand`.
Key theorems: `Shell.scan_joined`, `Shell.Program.ofText_words`, `Shell.Program.ofText_bar`.
-/
import Mathlib.Data.List.Forall2
import SessionWatch.Proofs.Shell.Quotation
import SessionWatch.Shell.Builtin
import SessionWatch.Shell.Script

namespace SessionWatch.Shell

/-! ### Tokens between blanks -/

/-- A part of a line that asks for no lines behind it. -/
def Token.isInline : Token → Bool
  | .word _ => true
  | .operator name => name ≠ "<<" && name ≠ "<<-"
  | .file _ | .lines _ _ | .unclosed => false

/-- Between blanks these characters are read as this token. -/
structure Stands (cs : List Char) (t : Token) : Prop where
  isInline : t.isInline = true
  before_blank (ts : List Token) : (∀ t ∈ ts, t.isInline = true) →
    (cs ++ [' ']).foldl Lexer.step { done := ts } = { done := t :: ts }
  at_end (ts : List Token) : (∀ t ∈ ts, t.isInline = true) →
    (cs.foldl Lexer.step { done := ts }).finish.done = t :: ts

theorem Lexer.endWord_extend {ts : List Token} (inline : ∀ t ∈ ts, t.isInline = true) (w : Word) :
    (({ done := ts } : Lexer).extend w).endWord = { done := .word w :: ts } := by
  cases ts with
  | nil => simp [extend, endWord]
  | cons t ts =>
    have here : t.isInline = true := inline t List.mem_cons_self
    unfold extend endWord
    simp only [Option.getD_none, List.append_nil, List.reverse_reverse]
    split
    · next heq => cases heq; cases here
    · next heq => cases heq; cases here
    · rfl

theorem Spells.stands {cs : List Char} {w : Word} (h : Spells cs w) : Stands cs (.word w) where
  isInline := rfl
  before_blank ts inline := by
    rw [h.up_to_blank rfl rfl (.inl rfl), Lexer.endWord_extend inline]
  at_end ts inline := by
    rw [h _ rfl rfl]
    exact congrArg Lexer.done (Lexer.endWord_extend inline w)

theorem stands_quoted (s : String) : Stands (quoteChars s.toList) (.word (Word.quoted s)) :=
  (spells_quoteChars s).stands

theorem stands_bare {s : String} (h : IsBare s) : Stands s.toList (.word (Word.bare s)) :=
  (spells_bare h).stands

/-- A quoted text right behind another one is part of the same word. -/
theorem stands_setting {s : String} (h : IsBare s) (value : String) :
    Stands (s.toList ++ quoteChars value.toList) (.word (Word.bare s ++ Word.quoted value)) :=
  ((spells_bare h).append (spells_quoteChars value)).stands

/-- A bar between blanks feeds what is printed before it to what stands behind it. -/
theorem stands_bar : Stands ['|'] (.operator "|") where
  isInline := rfl
  before_blank _ _ := rfl
  at_end _ _ := rfl

/-- What stands between blanks is read one after the other. -/
theorem foldl_joined {css : List (List Char)} {ts : List Token} (h : List.Forall₂ Stands css ts) :
    ∀ done : List Token, (∀ t ∈ done, t.isInline = true) →
      (([' '].intercalate css).foldl Lexer.step { done := done }).finish.done =
        ts.reverse ++ done := by
  induction h with
  | nil => exact fun _ _ => rfl
  | @cons cs t css ts first more ih =>
    intro done inline
    have next : ∀ t' ∈ t :: done, t'.isInline = true :=
      List.forall_mem_cons.mpr ⟨first.isInline, inline⟩
    cases more with
    | nil => simpa using first.at_end done inline
    | cons second more =>
      rw [List.intercalate_cons_cons, List.foldl_append, first.before_blank done inline,
        ih _ next]
      simp

/-- Nothing is put in the place of parts of a line that ask for no lines. -/
theorem attach_inline {ts : List Token} (inline : ∀ t ∈ ts, t.isInline = true)
    (awaited : List Token) : attach awaited ts = ts := by
  induction awaited, ts using attach.induct with
  | case1 awaited o w ts asks ih =>
    have here := inline (.operator o) List.mem_cons_self
    rcases asks with rfl | rfl <;> cases here
  | case2 awaited o w ts asks ih =>
    rw [attach, if_neg asks, ih fun t ht => inline t (by simp [ht])]
  | case3 awaited text quoted ts ih => cases inline _ List.mem_cons_self
  | case4 awaited t ts _ _ ih =>
    rw [attach, ih fun t ht => inline t (by simp [ht])]
    all_goals assumption
  | case5 => simp [attach]

theorem isInline_of_stands {css : List (List Char)} {ts : List Token}
    (h : List.Forall₂ Stands css ts) : ∀ t ∈ ts, t.isInline = true := by
  induction h with
  | nil => exact nofun
  | cons first _ ih => exact List.forall_mem_cons.mpr ⟨first.isInline, ih⟩

/-- **Parts of a line that stand apart by blanks are read as the tokens that they stand for.** -/
theorem scan_joined {css : List (List Char)} {ts : List Token} (h : List.Forall₂ Stands css ts) :
    scan ([' '].intercalate css) = ts := by
  have done := foldl_joined h [] nofun
  unfold scan
  rw [done, List.append_nil, List.reverse_reverse]
  exact attach_inline (isInline_of_stands h) _

/-! ### Simple commands -/

namespace Script

/-- A word that does not belong to a compound command where a command begins. -/
def BeginsCommand (w : Word) : Prop :=
  ∀ name, plain? (.word w) = some name → name ∉ Builtin.keywords

/-- A word with a quoted part is no keyword. -/
theorem beginsCommand_quoted (v : Word) (s : String) : BeginsCommand (v ++ Word.quoted s) := by
  intro name hname
  obtain ⟨p, hp⟩ := List.exists_mem_of_ne_nil _ (Word.quoted_ne_nil s)
  have quoted := Word.isQuoted_quoted s p hp
  simp only [plain?] at hname
  split at hname
  · next all =>
    have bare := List.all_eq_true.mp all p (List.mem_append_right v hp)
    cases p with
    | char c q =>
      cases (quoted : q = true)
      cases bare
    | parameter => cases bare
    | output => cases bare
    | nothing => cases bare
  · cases hname

/-- A command may end in front of these tokens: here is the end of the line, or a bar. -/
def EndsCommand (ts : List Token) : Prop := ts = [] ∨ ∃ more, ts = .operator "|" :: more

variable {w : Word} {ws : List Word} {rest : List Token}

theorem redirect?_eq_none (h : EndsCommand rest) : redirect? rest = none := by
  rcases h with rfl | ⟨more, rfl⟩
  · rfl
  · unfold redirect?
    cases more with
    | nil => rfl
    | cons t more => cases t <;> rfl

theorem simple_words (ends : EndsCommand rest) :
    ∀ (ws : List Word) (fuel : Nat), ws.length ≤ fuel →
      simple fuel (ws.map .word ++ rest) = (ws, [], rest)
  | [], 0, _ => rfl
  | [], fuel + 1, _ => by
    rw [List.map_nil, List.nil_append, simple, redirect?_eq_none ends]
    rcases ends with rfl | ⟨more, rfl⟩ <;> simp
  | w :: ws, fuel + 1, h => by
    have more := simple_words ends ws fuel (Nat.le_of_succ_le_succ h)
    rw [List.map_cons, List.cons_append, simple, more]

theorem operator?_word (name : String) (ts : List Token) :
    operator? name (.word w :: ts) = none := rfl

theorem definition?_words (ends : EndsCommand rest) (ws : List Word) :
    definition? (.word w :: (ws.map .word ++ rest)) = none := by
  cases ws with
  | nil => rcases ends with rfl | ⟨more, rfl⟩ <;> rfl
  | cons v ws => rfl

theorem BeginsCommand.keyword? (h : BeginsCommand w) {name : String}
    (hname : name ∈ Builtin.keywords) (ts : List Token) :
    keyword? name (.word w :: ts) = none := by
  rw [Script.keyword?, if_neg]
  exact fun heq => h name heq hname

theorem mem_keywords_of_reservedEnds : ∀ name ∈ reservedEnds, name ∈ Builtin.keywords := by
  decide

theorem BeginsCommand.any_eq_false (h : BeginsCommand w) :
    ¬ (plain? (.word w)).any (fun name => reservedEnds.contains name || name = "case") = true := by
  rw [Option.any_eq_true]
  rintro ⟨name, hname, reserved⟩
  refine h name hname ?_
  rw [Bool.or_eq_true, List.contains_iff_mem, decide_eq_true_eq] at reserved
  rcases reserved with hend | rfl
  · exact mem_keywords_of_reservedEnds name hend
  · decide

theorem bare?_words (begins : BeginsCommand w) (ends : EndsCommand rest) (ws : List Word)
    (fuel n : Nat) :
    let ts := .word w :: (ws.map .word ++ rest)
    bare? (fuel + 1) n ts = some (.command (n - height ts + 1) (w :: ws) [], rest) := by
  intro ts
  have words : simple ts.length ts = (w :: ws, [], rest) :=
    simple_words ends (w :: ws) ts.length (by simp [ts])
  have name? : ts.head?.bind plain? = plain? (.word w) := rfl
  rw [bare?, operator?_word, definition?_words ends]
  dsimp only
  rw [name?]
  split
  case h_6 heq _ => exact absurd (by decide) (begins _ heq)
  case h_7 =>
    rw [if_neg begins.any_eq_false, words]
    rfl
  all_goals
    next heq => exact absurd (by decide) (begins _ heq)

theorem compound?_words (begins : BeginsCommand w) (ends : EndsCommand rest) (ws : List Word)
    (fuel n : Nat) :
    let ts := .word w :: (ws.map .word ++ rest)
    compound? (fuel + 2) n ts = some (.command (n - height ts + 1) (w :: ws) [], rest) := by
  intro ts
  rw [compound?, bare?_words begins ends]

/-- Words at the end of a line are one stage. -/
theorem stages?_words (begins : BeginsCommand w) (ws : List Word) (fuel n : Nat) :
    let ts := .word w :: ws.map .word
    stages? (fuel + 3) n ts = some (.command (n - height ts + 1) (w :: ws) [], []) := by
  intro ts
  have stage := compound?_words begins (.inl rfl) ws fuel n
  rw [List.append_nil] at stage
  rw [stages?, stage]
  rfl

/-- Words in front of a bar are a stage whose output the next one reads. -/
theorem stages?_bar {v : Word} (begins : BeginsCommand w) (begins' : BeginsCommand v)
    (ws vs : List Word) (fuel n : Nat) :
    let right := .word v :: vs.map .word
    let ts := .word w :: (ws.map .word ++ .operator "|" :: right)
    stages? (fuel + 4) n ts = some
      (.pipe (.command (n - height ts + 1) (w :: ws) [])
        (.command (n - height right + 1) (v :: vs) []), []) := by
  intro right ts
  have stage := compound?_words begins (.inr ⟨right, rfl⟩) ws (fuel + 1) n
  have next : operator? "|" (.operator "|" :: right) = some right := rfl
  have here : skipNewlines right = right := rfl
  rw [stages?, stage]
  dsimp only
  rw [next]
  dsimp only
  rw [here, stages?_words begins']
  rfl

/-- A line that begins with a word and is one pipeline says nothing else. -/
theorem line?_of_stages {ts : List Token} {a : Script} {fuel n : Nat}
    (begins : BeginsCommand w) (h : stages? (fuel + 1) n (.word w :: ts) = some (a, [])) :
    line? (fuel + 4) n (.word w :: ts) = some (a, []) := by
  have bang : keyword? "!" (.word w :: ts) = none := begins.keyword? (by decide) ts
  have last : moreAndOr? (fuel + 2) n a [] = some (a, []) := by
    rw [moreAndOr?]
    rfl
  rw [line?, andOr?, pipeline?, bang]
  dsimp only
  rw [h]
  dsimp only
  rw [last]

end Script

namespace Program

open Script

theorem ofTokens_of_line {w : Word} {ts : List Token} {a : Script} {steps height : Nat}
    (h : Script.line? steps height (.word w :: ts) = some (a, [])) (fuel : Nat) :
    ofTokens height steps (fuel + 2) (.word w :: ts) = ⟨[a], true⟩ := by
  have here : skipNewlines (.word w :: ts) = .word w :: ts := rfl
  rw [ofTokens, here]
  dsimp only
  rw [h]
  rfl

theorem ofText_of_stages {s : String} {w : Word} {ts : List Token} {a : Script}
    (read : scan s.toList = .word w :: ts) (begins : BeginsCommand w)
    (h : ∀ fuel, stages? (fuel + 4) (height (.word w :: ts)) (.word w :: ts) = some (a, [])) :
    ofText s = ⟨[a], true⟩ := by
  have steps : 10 * (.word w :: ts).length + 10 = 10 * ts.length + 13 + 7 := by
    simp; omega
  have fuel : (.word w :: ts).length + 1 = ts.length + 2 := rfl
  unfold ofText
  rw [read]
  dsimp only
  rw [fuel, steps]
  exact ofTokens_of_line (line?_of_stages begins (h _)) _

/-- **A line of words is one simple command.** -/
theorem ofText_words {s : String} {w : Word} {ws : List Word}
    (read : scan s.toList = (w :: ws).map .word) (begins : BeginsCommand w) :
    ofText s = ⟨[.command 1 (w :: ws) []], true⟩ := by
  refine ofText_of_stages read begins fun fuel => ?_
  rw [stages?_words begins]
  simp

/-- **A line of words with a bar among them is a pipeline of two simple commands.** -/
theorem ofText_bar {s : String} {w v : Word} {ws vs : List Word}
    (read : scan s.toList = (w :: ws).map .word ++ .operator "|" :: (v :: vs).map .word)
    (begins : BeginsCommand w) (begins' : BeginsCommand v) :
    ∃ line, ofText s = ⟨[.pipe (.command 1 (w :: ws) []) (.command line (v :: vs) [])], true⟩ := by
  let right : List Token := .word v :: vs.map .word
  let ts : List Token := .word w :: (ws.map .word ++ .operator "|" :: right)
  refine ⟨height ts - height right + 1, ofText_of_stages read begins fun fuel => ?_⟩
  have stages : stages? (fuel + 4) (height ts) ts = some
      (.pipe (.command (height ts - height ts + 1) (w :: ws) [])
        (.command (height ts - height right + 1) (v :: vs) []), []) :=
    stages?_bar begins begins' ws vs fuel (height ts)
  rwa [Nat.sub_self] at stages

end Program

end SessionWatch.Shell
