/-
# A tree with one more file

Putting a file where no directory stands changes the content at its own path
alone, and every directory stays one, so a path that could be followed still
can be. A file with a new name in a directory that is there makes no directory
either: from then on the same paths can be followed as before.

Key definitions: `Files.KeepsDirs`, `Files.IsNew`.
Key theorems: `Files.content?_put`, `Files.keepsDirs_put`,
`Files.lookup_target`, `Files.IsNew.target_put`.
-/
import Mathlib.Data.List.Basic
import SessionWatch.Files.Replace

namespace SessionWatch.Files

variable {fs fs' : Files} {p q r dir here : Path} {c : Bytes} {text name : String}

/-! ### Contents -/

theorem content?_put (fs : Files) (p q : Path) (c : Bytes) :
    (fs.put p c).content? q = if q = p then some c else fs.content? q := by
  unfold content? put
  by_cases same : q = p
  · simp [same]
  · have later : (fs.files.filter fun f => f.1 ≠ p).find? (fun f => f.1 = q) =
        fs.files.find? fun f => f.1 = q := by
      rw [List.find?_filter]
      congr 1
      funext f
      by_cases at_q : f.1 = q
      · simp [at_q, same]
      · simp [at_q]
    rw [List.find?_cons_of_neg (by simpa using Ne.symm same), later, if_neg same]

theorem content?_put_self (fs : Files) (p : Path) (c : Bytes) :
    (fs.put p c).content? p = some c := by
  rw [content?_put, if_pos rfl]

theorem kindAt_put_self (fs : Files) (p : Path) (c : Bytes) : (fs.put p c).kindAt p = .file c := by
  rw [kindAt, content?_put_self]

theorem kindAt_eq_dir : fs.kindAt p = .dir ↔ fs.content? p = none ∧ fs.isDir p = true := by
  unfold kindAt
  cases fs.content? p with
  | some c => simp
  | none => cases fs.isDir p <;> simp

theorem kindAt_eq_absent : fs.kindAt p = .absent ↔ fs.content? p = none ∧ fs.isDir p = false := by
  unfold kindAt
  cases fs.content? p with
  | some c => simp
  | none => cases fs.isDir p <;> simp

theorem checkDir_eq_ok : fs.checkDir p = .ok () ↔ fs.kindAt p = .dir := by
  unfold checkDir
  cases fs.kindAt p <;> simp

/-! ### Directories -/

theorem isDir_iff : fs.isDir r = true ↔
    r = [] ∨ (∃ x ∈ fs.dirs, r <+: x) ∨ ∃ f ∈ fs.files, r <+: f.1 ∧ f.1 ≠ r := by
  simp [isDir, or_assoc]

/-- What is above a directory is one. -/
theorem isDir_of_prefix (h : fs.isDir dir = true) (above : r <+: dir) : fs.isDir r = true := by
  rw [isDir_iff] at h ⊢
  rcases h with rfl | ⟨x, hx, below⟩ | ⟨f, hf, below, other⟩
  · exact .inl (List.prefix_nil.mp above)
  · exact .inr (.inl ⟨x, hx, above.trans below⟩)
  · refine .inr (.inr ⟨f, hf, above.trans below, ?_⟩)
    rintro rfl
    exact other (below.eq_of_length_le above.length_le).symm

theorem isDir_put : (fs.put p c).isDir r = true ↔
    fs.isDir r = true ∨ (r <+: p ∧ p ≠ r) := by
  rw [isDir_iff, isDir_iff]
  constructor
  · rintro (rfl | found | ⟨f, hf, below, other⟩)
    · exact .inl (.inl rfl)
    · exact .inl (.inr (.inl found))
    · rcases List.mem_cons.mp hf with rfl | hf
      · exact .inr ⟨below, other⟩
      · exact .inl (.inr (.inr ⟨f, (List.mem_filter.mp hf).1, below, other⟩))
  · rintro ((rfl | found | ⟨f, hf, below, other⟩) | new)
    · exact .inl rfl
    · exact .inr (.inl found)
    · by_cases same : f.1 = p
      · exact .inr (.inr ⟨(p, c), List.mem_cons_self, same ▸ below, same ▸ other⟩)
      · have kept : f ∈ fs.files.filter fun f => f.1 ≠ p :=
          List.mem_filter.mpr ⟨hf, by simpa using same⟩
        exact .inr (.inr ⟨f, List.mem_cons_of_mem _ kept, below, other⟩)
    · exact .inr (.inr ⟨(p, c), List.mem_cons_self, new⟩)

/-- The directories of one tree are directories of the other. -/
structure KeepsDirs (fs fs' : Files) : Prop where
  here : fs'.here = fs.here
  dir : ∀ r, fs.kindAt r = .dir → fs'.kindAt r = .dir

/-- A file that is put where no directory stands leaves every directory one. -/
theorem keepsDirs_put (apart : fs.kindAt p ≠ .dir) (c : Bytes) : KeepsDirs fs (fs.put p c) where
  here := rfl
  dir r h := by
    have other : r ≠ p := by
      rintro rfl
      exact apart h
    rw [kindAt_eq_dir] at h ⊢
    rw [content?_put, if_neg other]
    exact ⟨h.1, isDir_put.mpr (.inl h.2)⟩

namespace KeepsDirs

variable (keeps : KeepsDirs fs fs')
include keeps

theorem start (text : String) : fs'.start text = fs.start text := by
  unfold Files.start
  rw [keeps.here]

theorem checkDir (h : fs.checkDir p = .ok ()) : fs'.checkDir p = .ok () :=
  checkDir_eq_ok.mpr (keeps.dir p (checkDir_eq_ok.mp h))

theorem follow? : ∀ {ns : List String} {here : Path},
    fs.follow? here ns = .ok p → fs'.follow? here ns = .ok p
  | [], _, h => h
  | name :: ns, here, h => by
    unfold Files.follow? at h ⊢
    split at h
    · cases h
    · next there =>
      rw [keeps.checkDir there]
      split at h
      · cases h
      · next fits =>
        simp only [if_neg fits]
        exact follow? h

end KeepsDirs

/-! ### The place a file is moved to -/

theorem follow?_concat : ∀ {ns : List String} {here : Path}, fs.follow? here ns = .ok dir →
    fs.checkDir dir = .ok () → name.utf8ByteSize ≤ maxNameBytes →
      fs.follow? here (ns ++ [name]) = .ok (stepTo dir name)
  | [], _, rfl, there, fits => by
    simp only [List.nil_append, Files.follow?, there, if_neg (Nat.not_lt_of_le fits)]
  | first :: ns, here, h, there, fits => by
    rw [List.cons_append]
    unfold Files.follow? at h ⊢
    split at h
    · cases h
    · split at h
      · cases h
      · next short =>
        rw [if_neg short]
        exact follow?_concat h there fits

/-- A path ends with a name exactly if the names before it lead to a directory, and it is not a
step that leads to one. -/
theorem approach_eq_name : fs.approach text = .ok (dir, .name name) ↔
    checkText text = .ok () ∧ fs.follow? (fs.start text) (names text).dropLast = .ok dir ∧
      fs.checkDir dir = .ok () ∧ (names text).getLast? = some name ∧ name ≠ "." ∧ name ≠ ".." := by
  constructor
  · intro h
    unfold approach at h
    split at h
    · cases h
    · next seen =>
      dsimp only at h
      split at h
      · cases h
      · next followed =>
        split at h <;> try cases h
        next there dot dots last => exact ⟨seen, followed, there, last, dot, dots⟩
  · rintro ⟨seen, followed, there, last, dot, dots⟩
    unfold approach
    simp only [seen, followed, there, last]

/-- A file can be moved to a path exactly if all but its last name lead to a directory, and the
last name is one that a file can have there. -/
theorem target_eq_ok : fs.target text = .ok p ↔
    ∃ dir name, fs.approach text = .ok (dir, .name name) ∧ name.utf8ByteSize ≤ maxNameBytes ∧
      endsWithSlash text = false ∧ p = dir ++ [name] ∧ fs.kindAt p ≠ .dir := by
  constructor
  · intro h
    unfold target at h
    split at h
    · cases h
    · cases h
    · cases h
    · next dir name reached =>
      split at h
      · cases h
      · next fits =>
        split at h
        · cases h
        · next open_ =>
          split at h
          · cases h
          · next apart =>
            cases h
            exact ⟨dir, name, reached, Nat.le_of_not_lt fits, by simpa using open_, rfl, apart⟩
  · rintro ⟨dir, name, reached, fits, open_, rfl, apart⟩
    unfold target
    rw [reached]
    simp only [if_neg (Nat.not_lt_of_le fits), open_, Bool.false_eq_true, if_false]

/-- Where directories are kept, so is the place a file is moved to, unless a directory stands
there. -/
theorem KeepsDirs.target (keeps : KeepsDirs fs fs') (apart : fs'.kindAt p ≠ .dir)
    (h : fs.target text = .ok p) : fs'.target text = .ok p := by
  obtain ⟨dir, name, reached, fits, open_, rfl, -⟩ := target_eq_ok.mp h
  obtain ⟨seen, followed, there, last⟩ := approach_eq_name.mp reached
  have reached' := approach_eq_name.mpr
    ⟨seen, keeps.start text ▸ keeps.follow? followed, keeps.checkDir there, last⟩
  exact target_eq_ok.mpr ⟨dir, name, reached', fits, open_, rfl, apart⟩

/-- A file that is put where a path is moved to is found at that path. -/
theorem lookup_target (h : fs.target text = .ok p) (c : Bytes) :
    (fs.put p c).lookup text = .ok (p, .file c) := by
  obtain ⟨dir, name, reached, fits, open_, rfl, apart⟩ := target_eq_ok.mp h
  obtain ⟨seen, followed, there, last, dot, dots⟩ := approach_eq_name.mp reached
  have keeps := keepsDirs_put apart c
  have all : steps text = (names text).dropLast ++ [name] := by
    rw [steps, open_, List.dropLast_append_getLast? name last]
    exact List.append_nil _
  have place : stepTo dir name = dir ++ [name] := by
    rw [stepTo, if_neg dot, if_neg dots]
  have walked := follow?_concat (keeps.follow? followed) (keeps.checkDir there) fits
  unfold lookup
  rw [keeps.start, all, walked, place, seen]
  simp only [kindAt_put_self]

/-! ### New files -/

/-- A path in a directory at which nothing stands yet. -/
structure IsNew (fs : Files) (p : Path) : Prop where
  absent : fs.kindAt p = .absent
  dir : fs.kindAt p.dropLast = .dir

namespace IsNew

variable (new : IsNew fs q)
include new

theorem content? : fs.content? q = none := (kindAt_eq_absent.mp new.absent).1

theorem files_filter : (fs.files.filter fun f => f.1 ≠ q) = fs.files := by
  have none := new.content?
  rw [Files.content?, Option.map_eq_none_iff, List.find?_eq_none] at none
  exact List.filter_eq_self.mpr fun f hf => by simpa using none f hf

/-- No directory comes with a new file. -/
theorem kindAt_put (c : Bytes) : (fs.put q c).kindAt r = .dir ↔ fs.kindAt r = .dir := by
  constructor
  · intro h
    have other : r ≠ q := by
      rintro rfl
      rw [kindAt_put_self] at h
      cases h
    rw [kindAt_eq_dir, content?_put, if_neg other, isDir_put] at h
    refine kindAt_eq_dir.mpr ⟨h.1, ?_⟩
    rcases h.2 with h | ⟨above, -⟩
    · exact h
    · -- above the new file there are its directory and what is above that
      have shorter : r.length ≤ q.dropLast.length := by
        have := above.length_le
        have : r.length ≠ q.length := fun same => other (above.eq_of_length same)
        rw [List.length_dropLast]
        omega
      have up : r <+: q.dropLast :=
        List.prefix_of_prefix_length_le above (List.dropLast_prefix q) shorter
      exact isDir_of_prefix (kindAt_eq_dir.mp new.dir).2 up
  · have apart : fs.kindAt q ≠ .dir := by
      rw [new.absent]
      nofun
    exact (keepsDirs_put apart c).dir r

/-- A new file leaves open where files can be moved. -/
theorem target_put (c : Bytes) : (fs.put q c).target text = .ok p ↔ fs.target text = .ok p := by
  have apart : fs.kindAt q ≠ .dir := by
    rw [new.absent]
    nofun
  have back : KeepsDirs (fs.put q c) fs := ⟨rfl, fun r => (new.kindAt_put c).mp⟩
  constructor
  · intro h
    obtain ⟨-, -, -, -, -, -, free⟩ := target_eq_ok.mp h
    exact back.target (fun h => free ((new.kindAt_put c).mpr h)) h
  · intro h
    obtain ⟨-, -, -, -, -, -, free⟩ := target_eq_ok.mp h
    exact (keepsDirs_put apart c).target (fun h => free ((new.kindAt_put c).mp h)) h

end IsNew

end SessionWatch.Files
