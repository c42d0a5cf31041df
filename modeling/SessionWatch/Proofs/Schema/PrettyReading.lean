/-
# A value over several lines is read back

The text of a settings file is read as the value that was written. Each way to
build a shape keeps this: a list and an object are loops over their items and
members, which stand on lines of their own, and space between tokens is passed
over. A record needs distinct names, as its members are read by name; an
object with any keys needs keys in order, as that is how they are kept.

Key definitions: `Shape.ReadsLines`, `Fields.FitsLines`.
Key theorems: `Shape.readsLines_list`, `Shape.readsLines_dict`,
`Shape.readsLines_record`, `Shape.decode_lines`.
-/
import SessionWatch.Proofs.Json.Keys
import SessionWatch.Proofs.Json.Pretty
import SessionWatch.Proofs.Schema.ReadBack
import SessionWatch.Proofs.Schema.TextReading

namespace SessionWatch

open Json (Mismatch Read Ends Lead Plain skipSpace skipSpace_cons isSpace newLine quotedBytes
  prettyBytes prettyItemsLeft prettyMembersLeft)

/-! ### Space -/

section space

variable {rest : Bytes}

theorem skipSpace_replicate {b : UInt8} (h : isSpace b = false) (bs : Bytes) :
    ∀ n, skipSpace (List.replicate n 0x20 ++ b :: bs) = b :: bs
  | 0 => skipSpace_cons h bs
  | n + 1 => skipSpace_replicate h bs n

theorem skipSpace_newLine (level : Nat) {b : UInt8} (h : isSpace b = false) (bs : Bytes) :
    skipSpace (newLine level ++ b :: bs) = b :: bs := skipSpace_replicate h bs (2 * level)

theorem ends_prettyItemsLeft (level : Nat) (vs : List Json) (rest : Bytes) :
    Ends (prettyItemsLeft level vs ++ rest) := by
  cases vs <;> exact Json.ends_cons (by decide)

theorem ends_prettyMembersLeft (level : Nat) (ms : List (String × Json)) (rest : Bytes) :
    Ends (prettyMembersLeft level ms ++ rest) := by
  cases ms <;> exact Json.ends_cons (by decide)

/-- A blank in front of a value is passed over. -/
theorem Shape.read_blank {α : Type} : ∀ (s : Shape α) (limit depth : Nat) (bs : Bytes),
    s.read limit depth (0x20 :: bs) = s.read limit depth bs
  | .text _, _, _, _ | .flag, _, _, _ | .count _ _, _, _, _ | .oneOf _, _, _, _ => rfl
  | .optional s, limit, depth, bs => rfl
  | .any, limit, depth, bs => by
    have same : Json.readValue limit depth (0x20 :: bs) = Json.readValue limit depth bs := by
      unfold Json.readValue
      rfl
    rw [Shape.read, Shape.read, same]
  | .list s, limit, depth, bs => by cases depth <;> rfl
  | .dict s, limit, depth, bs => by cases depth <;> rfl
  | .record title fields, limit, depth, bs => by cases depth <;> rfl
  | .refine s check back, limit, depth, bs => by
    rw [Shape.read, Shape.read, Shape.read_blank s]

end space

/-! ### Loops over lines -/

/-- Bytes that begin neither with space nor with the end of a list. -/
def BeginsItem (bs : Bytes) : Prop := ∃ b tl, bs = b :: tl ∧ isSpace b = false ∧ b ≠ 0x5D

section loops

variable {α σ : Type} {level : Nat} (rest : Bytes)

/-- What stands for a value on lines of its own is read as the value. -/
def ReadsItem (item : Bytes → Read α) (level : Nat) (v : Json) (a : α) : Prop :=
  BeginsItem (prettyBytes level v) ∧
    ∀ rest, Ends rest → item (prettyBytes level v ++ rest) = .ok (a, rest)

variable {item : Bytes → Read α} {write : α → Json}

theorem readItems_lines : ∀ (as : List α) (a : α) (acc : List α) (limit : Nat),
    (∀ x ∈ a :: as, ReadsItem item (level + 1) (write x) x) → as.length < limit →
      Json.readItems item limit acc
          (prettyBytes (level + 1) (write a) ++ (prettyItemsLeft level (as.map write) ++ rest)) =
        .ok (acc.reverse ++ a :: as, rest)
  | [], a, acc, limit + 1, h, _ => by
    have ends := ends_prettyItemsLeft level [] rest
    rw [Json.readItems, List.map_nil, (h a List.mem_cons_self).2 _ ends, prettyItemsLeft,
      List.append_assoc]
    simp only [List.singleton_append, skipSpace_newLine level (b := 0x5D) (by decide)]
    rw [List.reverse_cons]
  | x :: as, a, acc, limit + 1, h, short => by
    obtain ⟨first, later⟩ := List.forall_mem_cons.mp h
    have ends := ends_prettyItemsLeft level ((x :: as).map write) rest
    have ih := readItems_lines as x (a :: acc) limit later (by simpa using short)
    obtain ⟨b, tl, begins, space, close⟩ := (later x List.mem_cons_self).1
    rw [Json.readItems, first.2 _ ends, List.map_cons, prettyItemsLeft]
    rw [begins, List.cons_append] at ih
    simp only [List.cons_append, List.append_assoc, skipSpace_cons (b := 0x2C) (by decide), begins,
      skipSpace_newLine (level + 1) space]
    -- the next item does not begin with a bracket, so the loop goes on
    split
    · next heq => cases heq
    · next heq => exact absurd (List.cons.inj heq).1 close
    · rw [ih, List.reverse_cons, List.append_assoc, List.singleton_append]
  | _, _, _, 0, _, short => absurd short (Nat.not_lt_zero _)

/-- The bytes of a list after its opening bracket. -/
def prettyListBody (level : Nat) : List Json → Bytes
  | [] => [0x5D]
  | v :: vs => newLine (level + 1) ++ (prettyBytes (level + 1) v ++ prettyItemsLeft level vs)

theorem prettyBytes_array (level : Nat) (vs : List Json) :
    prettyBytes level (.array vs) = 0x5B :: prettyListBody level vs := by
  cases vs <;> rfl

theorem readList_lines {as : List α} {limit : Nat}
    (h : ∀ x ∈ as, ReadsItem item (level + 1) (write x) x) (short : as.length ≤ limit) :
    Json.readList item limit (prettyListBody level (as.map write) ++ rest) = .ok (as, rest) := by
  cases as with
  | nil => rfl
  | cons a as =>
    have items := readItems_lines rest as a [] limit h short
    obtain ⟨b, tl, begins, space, close⟩ := (h a List.mem_cons_self).1
    rw [begins, List.cons_append] at items
    rw [List.map_cons, prettyListBody, begins]
    simp only [List.cons_append, List.append_assoc]
    unfold Json.readList
    rw [skipSpace_newLine (level + 1) space]
    split
    · next heq => cases heq
    · next heq => exact absurd (List.cons.inj heq).1 close
    · exact items

/-- Put before a value on lines of its own, a reader of members goes on as a step over the member
does. -/
def StepsOver (member : σ → String → Bytes → Read σ)
    (step : σ → String → Json → Except Mismatch σ) (level : Nat) (m : String × Json) : Prop :=
  ∀ s rest, Ends rest →
    Agrees rest (member s m.1 (0x3A :: 0x20 :: (prettyBytes level m.2 ++ rest))) (step s m.1 m.2)

variable {member : σ → String → Bytes → Read σ} {step : σ → String → Json → Except Mismatch σ}

theorem readMembersFrom_lines : ∀ (ms : List (String × Json)) (k : String) (v : Json) (s : σ)
    (limit : Nat), (∀ m ∈ (k, v) :: ms, StepsOver member step (level + 1) m) → ms.length < limit →
      Agrees rest
        (Json.readMembersFrom member limit s (quotedBytes k ++ 0x3A :: 0x20 ::
          (prettyBytes (level + 1) v ++ (prettyMembersLeft level ms ++ rest))))
        (foldMembers step s ((k, v) :: ms))
  | ms, k, v, s, limit + 1, h, short => by
    obtain ⟨here, later⟩ := List.forall_mem_cons.mp h
    rw [quotedBytes, List.cons_append, Json.readMembersFrom, if_pos rfl, List.append_assoc,
      List.singleton_append, Json.readText_quotedBytes, foldMembers]
    refine (here s _ (ends_prettyMembersLeft level ms rest)).andThen fun s' => ?_
    cases ms with
    | nil =>
      rw [prettyMembersLeft, List.append_assoc, List.singleton_append]
      simp only [skipSpace_newLine level (b := 0x7D) (by decide)]
      rfl
    | cons m ms =>
      obtain ⟨k', v'⟩ := m
      have ih := readMembersFrom_lines ms k' v' s' limit later (by simpa using short)
      simp only [prettyMembersLeft, List.cons_append, List.append_assoc, quotedBytes,
        List.nil_append, skipSpace_cons (b := 0x2C) (by decide),
        skipSpace_newLine (level + 1) (b := 0x22) (by decide)] at ih ⊢
      exact ih
  | _, _, _, _, 0, _, short => absurd short (Nat.not_lt_zero _)

/-- The bytes of an object after its opening brace. -/
def prettyObjectBody (level : Nat) : List (String × Json) → Bytes
  | [] => [0x7D]
  | (k, v) :: ms => newLine (level + 1) ++ (quotedBytes k ++
      0x3A :: 0x20 :: (prettyBytes (level + 1) v ++ prettyMembersLeft level ms))

theorem prettyBytes_object (level : Nat) (ms : List (String × Json)) :
    prettyBytes level (.object ms) = 0x7B :: prettyObjectBody level ms := by
  rcases ms with - | ⟨⟨k, v⟩, ms⟩ <;> rfl

/-- **The members of an object are read line by line.** -/
theorem readMembers_lines {ms : List (String × Json)} {limit : Nat}
    (h : ∀ m ∈ ms, StepsOver member step (level + 1) m) (short : ms.length ≤ limit) (s : σ) :
    Agrees rest (Json.readMembers member limit s (prettyObjectBody level ms ++ rest))
      (foldMembers step s ms) := by
  match ms with
  | [] => rfl
  | (k, v) :: ms =>
    have members := readMembersFrom_lines rest ms k v s limit h short
    rw [prettyObjectBody, List.append_assoc]
    unfold Json.readMembers
    rw [quotedBytes, List.cons_append, List.cons_append]
    rw [quotedBytes, List.cons_append] at members
    rw [skipSpace_newLine (level + 1) (by decide)]
    simpa using members

end loops

/-! ### Shapes -/

theorem Json.Lead.ne_close {b : UInt8} {v : Json} (h : Lead b v) : b ≠ 0x5D := by
  cases h with
  | number n hb =>
    rintro rfl
    exact absurd hb (by decide)
  | _ => decide

/-- What is written of a value over several lines is read back, wherever it stands. -/
structure Shape.ReadsLines {α : Type} (s : Shape α) (depth : Nat) (a : α) : Prop where
  lead : ∃ b tl, (s.toJson a).bytes = b :: tl ∧ isSpace b = false ∧ Lead b (s.toJson a)
  back : s.ReadsBack a
  text : ∀ level limit rest, Ends rest → (s.toJson a).bytes.length ≤ limit →
    s.read limit depth (prettyBytes level (s.toJson a) ++ rest) = .ok (a, rest)

namespace Shape

variable {α β : Type} {s : Shape α} {a : α} {d limit : Nat}

theorem ReadsLines.begins (h : s.ReadsLines d a) (level : Nat) :
    ∃ b tl, prettyBytes level (s.toJson a) = b :: tl ∧ isSpace b = false ∧ Lead b (s.toJson a) := by
  obtain ⟨b, tl, bytes, space, lead⟩ := h.lead
  have first : (prettyBytes level (s.toJson a)).head? = some b := by
    rw [Json.head?_prettyBytes, bytes, List.head?_cons]
  obtain ⟨tl', pretty⟩ := List.head?_eq_some_iff.mp first
  exact ⟨b, tl', pretty, space, lead⟩

theorem ReadsLines.item (h : s.ReadsLines d a) (level : Nat)
    (short : (s.toJson a).bytes.length ≤ limit) :
    ReadsItem (s.read limit d) level (s.toJson a) a := by
  obtain ⟨b, tl, bytes, space, lead⟩ := h.begins level
  exact ⟨⟨b, tl, bytes, space, lead.ne_close⟩, fun rest ends => h.text level limit rest ends short⟩

/-- Behind a colon and a blank a value is read back as well. -/
theorem ReadsLines.behind_blank (h : s.ReadsLines d a) (level : Nat) {rest : Bytes}
    (ends : Ends rest) (short : (s.toJson a).bytes.length ≤ limit) :
    s.read limit d (0x20 :: (prettyBytes level (s.toJson a) ++ rest)) = .ok (a, rest) := by
  rw [Shape.read_blank, h.text level limit rest ends short]

theorem readsLines_text (wanted a : String) (d : Nat) : (Shape.text wanted).ReadsLines d a where
  lead := (Plain.string (d := d) a).lead
  back := readsBack_text wanted a
  text level limit rest _ _ := by
    rw [Shape.read]
    exact readWanted_bytes (Plain.string (d := d) a) wanted

theorem readsLines_count {bound n : Nat} (wanted : String) (below : n < bound)
    (word : bound ≤ Nat.pow 2 64) (d : Nat) : (Shape.count bound wanted).ReadsLines d n := by
  have plain : Plain d (.number (.int n)) := by
    have max : Json.uintMax = Nat.pow 2 64 - 1 := rfl
    exact .int (by omega) (by omega)
  have value : (Shape.count bound wanted).ofJson .parsed (.number (.int n)) = .ok n :=
    readsBack_count wanted below .parsed id .written
  refine ⟨plain.lead, readsBack_count wanted below, fun level limit rest ends _ => ?_⟩
  have read := readCount_bytes plain ends bound wanted
  rw [value] at read
  rw [Shape.read]
  exact read

theorem ReadsLines.some (h : s.ReadsLines d a) (there : s.toJson a ≠ .null) :
    (Shape.optional s).ReadsLines d (some a) where
  lead := h.lead
  back := h.back.some there
  text level limit rest ends short := by
    have read : s.read limit d (prettyBytes level (s.toJson a) ++ rest) = .ok (a, rest) :=
      h.text level limit rest ends short
    obtain ⟨b, tl, bytes, space, lead⟩ := h.begins level
    have other : b ≠ 0x6E := lead.ne_of_null there
    show (Shape.optional s).read limit d (prettyBytes level (s.toJson a) ++ rest) = _
    rw [bytes, List.cons_append] at read ⊢
    rw [Shape.read, skipSpace_cons space]
    split
    · next heq => exact absurd (List.cons.inj heq).1 other
    · rw [read]

/-- A list over several lines is read back if its items are. -/
theorem readsLines_list {as : List α} (h : ∀ a ∈ as, s.ReadsLines d a) :
    (Shape.list s).ReadsLines (d + 1) as where
  lead := ⟨_, _, bytes_array _, by decide, .array _⟩
  back := readsBack_list fun a ha => (h a ha).back
  text level limit rest _ short := by
    have few : as.length ≤ limit := by
      have count := Json.length_le_array (as.map s.toJson)
      rw [List.length_map] at count
      exact count.trans short
    have items : ∀ a ∈ as, ReadsItem (s.read limit d) (level + 1) (s.toJson a) a := fun a ha =>
      (h a ha).item (level + 1) ((Json.length_bytes_item (List.mem_map_of_mem ha)).trans short)
    show (Shape.list s).read limit (d + 1)
      (prettyBytes level (.array (as.map s.toJson)) ++ rest) = _
    rw [prettyBytes_array, List.cons_append]
    exact readList_lines rest items few

/-- An object over several lines is read back if its keys are in order and its values are read
back. -/
theorem readsLines_dict {ms : List (String × α)} (sorted : ms.Pairwise fun m m' => m.1 < m'.1)
    (h : ∀ m ∈ ms, s.ReadsLines d m.2) : (Shape.dict s).ReadsLines (d + 1) ms := by
  have back : (Shape.dict s).ReadsBack ms := readsBack_dict sorted fun m hm => (h m hm).back
  refine ⟨⟨_, _, bytes_object _, by decide, .object _⟩, back, fun level limit rest _ short => ?_⟩
  let members := ms.map fun m => (m.1, s.toJson m.2)
  let step (acc : List (String × α)) (key : String) (v : Json) : Except Mismatch _ :=
    (s.ofJson .parsed v).map (Json.put key · acc)
  have few : members.length ≤ limit := (Json.length_le_object members).trans short
  have value : foldMembers step [] members = .ok ms := back .parsed id .written
  have object : Agrees rest ((Shape.dict s).read limit (d + 1)
      (prettyBytes level (.object members) ++ rest)) (foldMembers step [] members) := by
    rw [prettyBytes_object, List.cons_append]
    show Agrees rest (Json.readMembers _ limit [] (prettyObjectBody level members ++ rest)) _
    refine readMembers_lines rest (fun m hm acc left ends => ?_) few []
    have small := (Json.length_bytes_member hm).trans short
    obtain ⟨m', hm', rfl⟩ := List.mem_map.mp hm
    have colon (bs : Bytes) : Json.readColon (0x3A :: bs) = .ok bs := rfl
    have read := (h m' hm').behind_blank (level + 1) ends small
    have value : s.ofJson .parsed (s.toJson m'.2) = .ok m'.2 := (h m' hm').back .parsed id .written
    simp only [step, colon, read, value]
    rfl
  rw [value] at object
  exact object

end Shape

/-! ### Records -/

/-- What is hidden is what an absent field means, and all else is read back over several lines. -/
def Fields.FitsLines {α σ : Type} (depth : Nat) : Fields α σ → α → Prop
  | .nil, _ => True
  | .cons _ _ s absence hidden rest, (v, vs) =>
    (if hidden v then absence.value? = some v else s.ReadsLines depth v) ∧ rest.FitsLines depth vs

theorem Fields.FitsLines.fits {depth : Nat} : ∀ {α σ : Type} {fs : Fields α σ} {v : α},
    fs.FitsLines depth v → fs.Fits v
  | _, _, .nil, _, _ => trivial
  | _, _, .cons name aliases s absence hidden rest, (v, vs), h => by
    refine ⟨?_, h.2.fits⟩
    have here := h.1
    by_cases hide : hidden v = true
    · rw [if_pos hide] at here ⊢
      exact here
    · rw [if_neg hide] at here ⊢
      exact here.back

/-- The members of a record that was written are read into their fields line by line. -/
theorem Fields.readMember_lines {limit depth level : Nat} :
    ∀ {α σ : Type} (fs : Fields α σ) (v : α), fs.names.Nodup → fs.FitsLines depth v →
      ∀ m ∈ fs.toMembers v, m.2.bytes.length ≤ limit →
        StepsOver (fs.readMember limit depth) (fs.fill .parsed) level m
  | _, _, .nil, _, _, _, m, hm, _ => absurd hm List.not_mem_nil
  | _, _, .cons name aliases s absence hidden rest, (v, vs), distinct, fits, m, hm, short => by
    rintro ⟨slot, slots⟩ left ends
    obtain ⟨-, later, apart⟩ := List.nodup_append.mp distinct
    -- a member belongs to the first field, or to one behind it, which has another name
    have here_or_later : (hidden v = false ∧ m = (name, s.toJson v)) ∨ m ∈ rest.toMembers vs := by
      rw [toMembers] at hm
      split at hm
      · exact .inr hm
      · next shown =>
        rcases List.mem_cons.mp hm with rfl | hm
        · exact .inl ⟨by simpa using shown, rfl⟩
        · exact .inr hm
    unfold Fields.readMember Fields.fill
    rcases here_or_later with ⟨shown, rfl⟩ | hm
    · have read := fits.1
      rw [if_neg (by simp [shown])] at read
      have colon (bs : Bytes) : Json.readColon (0x3A :: bs) = .ok bs := rfl
      have value : s.ofJson .parsed (s.toJson v) = .ok v := read.back .parsed id .written
      simp only [true_or, if_true, colon, read.behind_blank level ends short, value]
      cases slot with
      | none => rfl
      | some a => exact ⟨_, rfl⟩
    · have other : ¬ (m.1 = name ∨ m.1 ∈ aliases) := by
        have mine : m.1 ∈ rest.names := rest.name_of_mem_toMembers vs hm
        intro own
        exact apart m.1 (List.mem_cons.mpr own) m.1 mine rfl
      simp only [if_neg other]
      exact (rest.readMember_lines vs later fits.2 m hm short slots left ends).andThen
        fun slots => rfl

/-- **A record over several lines is read back if its fields fit.** -/
theorem Shape.readsLines_record {α β σ : Type} {title : String} {fs : Fields α σ}
    {into : α → β} {back : β → α} {v : β} {d : Nat} (distinct : fs.names.Nodup)
    (fits : fs.FitsLines d (back v)) (same : into (back v) = v) :
    ((Shape.record title fs).via into back).ReadsLines (d + 1) v where
  lead := ⟨_, _, bytes_object _, by decide, .object _⟩
  back := Shape.readsBack_record distinct fits.fits same
  text level limit rest _ short := by
    let members := fs.toMembers (back v)
    have few : members.length ≤ limit := (Json.length_le_object members).trans short
    have each : ∀ m ∈ members, StepsOver (fs.readMember limit d) (fs.fill .parsed) (level + 1) m :=
      fun m hm => fs.readMember_lines (back v) distinct fits m hm
        ((Json.length_bytes_member hm).trans short)
    have value : (Shape.record title fs).ofJson .parsed (.object members) = .ok (back v) :=
      Shape.ofJson_record distinct fits.fits .written (by simp [members]) .parsed
    have object : Agrees rest ((Shape.record title fs).read limit (d + 1)
        (prettyBytes level (.object members) ++ rest))
        ((Shape.record title fs).ofJson .parsed (.object members)) := by
      rw [prettyBytes_object, List.cons_append]
      exact (readMembers_lines rest each few fs.noSlots).andThen fun slots => agrees_placed _
    rw [value] at object
    have read : (Shape.record title fs).read limit (d + 1)
        (prettyBytes level (.object members) ++ rest) = .ok (back v, rest) := object
    show ((Shape.record title fs).via into back).read limit (d + 1)
      (prettyBytes level (.object members) ++ rest) = _
    rw [Shape.via, Shape.read, read]
    simp only [same]
    rfl

/-! ### Whole texts -/

/-- **What is written over several lines, with a line feed behind it, is decoded as what was
written.** -/
theorem Shape.decode_lines {α : Type} {s : Shape α} {a : α} (h : s.ReadsLines Json.depthLimit a) :
    s.decode (Text.utf8 ((s.toJson a).pretty ++ "\n")) = .ok a := by
  have feed : Text.utf8 "\n" = [0x0A] := rfl
  have long : (s.toJson a).bytes.length ≤ (prettyBytes 0 (s.toJson a) ++ [0x0A]).length := by
    have := Json.length_bytes_le_pretty (s.toJson a) 0
    rw [List.length_append]
    omega
  have read := h.text 0 _ [0x0A] (Json.ends_cons (by decide)) long
  rw [Shape.decode, Text.utf8_append, Json.utf8_pretty, feed, Json.readWhole, read]
  rfl

end SessionWatch
