/-
# A replacement call by call

The file that replaces another is written in several calls to the system, and
any of them may be refused for a reason that does not lie in the tree: the disk
is full, or a permission is missing. The directories are made; a draft, a file
with a new name, is begun in the directory of the target; the content is
written to the draft piece by piece; at last the draft is moved onto the
target. Where a call is refused, the draft is taken away.

One invariant says what each stage has come to, and both outcomes follow: a
run that ends well has done what `Files.replace` does in one go, a run that
fails has changed no file, and until the last call no file but the draft
differs.

Key definitions: `Files.Stage`, `Files.Step`, `Files.Run`, `Files.Since`,
`Files.HasDraft`.
Key theorems: `Files.Step.since`, `Files.Run.since`, `Files.Run.files_failed`,
`Files.run_of_replace`.
-/
import Mathlib.Logic.Relation
import SessionWatch.Proofs.Files.Put

namespace SessionWatch.Files

/-- More is written at the end of a file. -/
def append (fs : Files) (p : Path) (more : Bytes) : Files :=
  match fs.content? p with
  | some c => fs.put p (c ++ more)
  | none => fs

/-- A file is taken away. -/
def remove (fs : Files) (p : Path) : Files :=
  { fs with files := fs.files.filter fun f => f.1 ≠ p }

/-- A file is moved to a path, in the place of one that is there. -/
def move (fs : Files) (p q : Path) : Files :=
  match fs.content? p with
  | some c => (fs.remove p).put q c
  | none => fs

/-- The directory a file is in and those above it, as they are made. -/
def directories (text : String) : List String :=
  chain ((directoryOf text).length + 1) (directoryOf text).toList.reverse

/-- Why a replacement fails. -/
inductive Failure where
  /-- The tree does not allow it. -/
  | fault (why : ReplaceFault)
  /-- A call is refused for another reason. -/
  | refused (why : String)

/-- How far a replacement has come. -/
inductive Stage where
  | start
  /-- What was written so far stands in the draft, and this is left to write. -/
  | draft (place : Path) (left : Bytes)
  | done
  | failed (why : Failure)

/-- What one call does to the tree, and how it may fail. -/
inductive Step (text : String) (content : Bytes) : Files × Stage → Files × Stage → Prop where
  | beginDraft {fs made : Files} {dir : Path} {name : String}
      (ready : fs.makeDirs (directories text) = (made, .ok ()))
      (there : made.lookup (directoryOf text) = .ok (dir, .dir))
      (new : made.IsNew (dir ++ [name])) :
      Step text content (fs, .start) (made.put (dir ++ [name]) [], .draft (dir ++ [name]) content)
  | noDirectory {fs made : Files} {why : Fault}
      (stuck : fs.makeDirs (directories text) = (made, .error why)) :
      Step text content (fs, .start)
        (made, .failed (.fault (.noDirectory (directoryOf text) why)))
  /-- A directory or the draft is refused, when the directories above are made. -/
  | refuseDraft (fs : Files) (n : Nat) (why : String) :
      Step text content (fs, .start)
        ((fs.makeDirs ((directories text).drop n)).1, .failed (.refused why))
  | write (fs : Files) (q : Path) (left : Bytes) (n : Nat) :
      Step text content (fs, .draft q left) (fs.append q (left.take n), .draft q (left.drop n))
  /-- The draft is not written to the end, or not moved. -/
  | refuse (fs : Files) (q : Path) (left : Bytes) (why : String) :
      Step text content (fs, .draft q left) (fs.remove q, .failed (.refused why))
  | moveDraft {fs : Files} {q p : Path} (free : fs.target text = .ok p) :
      Step text content (fs, .draft q []) (fs.move q p, .done)
  | noTarget {fs : Files} {q : Path} {why : Fault} (taken : fs.target text = .error why) :
      Step text content (fs, .draft q []) (fs.remove q, .failed (.fault (.notMoved why)))

/-- Any number of calls. -/
abbrev Run (text : String) (content : Bytes) : Files × Stage → Files × Stage → Prop :=
  Relation.ReflTransGen (Step text content)

variable {fs made before : Files} {text name : String} {content left : Bytes} {p q dir : Path}

/-! ### Drafts -/

theorem put_put (fs : Files) (q : Path) (c more : Bytes) :
    (fs.put q c).put q more = fs.put q more := by
  have rest : ((fs.put q c).files.filter fun f => f.1 ≠ q) = fs.files.filter fun f => f.1 ≠ q := by
    rw [put, List.filter_cons_of_neg (by simp), List.filter_filter]
    simp
  rw [put, rest]
  rfl

theorem append_put (fs : Files) (q : Path) (written more : Bytes) :
    (fs.put q written).append q more = fs.put q (written ++ more) := by
  rw [append, content?_put_self]
  exact put_put fs q written _

namespace IsNew

variable (new : IsNew made q)
include new

/-- Taking a draft away gives back the tree in which it was begun. -/
theorem remove_put (written : Bytes) : (made.put q written).remove q = made := by
  have gone : (made.files.filter fun f => f.1 ≠ q).filter (fun f => f.1 ≠ q) = made.files := by
    rw [List.filter_filter]
    simpa using new.files_filter
  rw [remove, put, List.filter_cons_of_neg (by simp), gone]

theorem move_put (written : Bytes) : (made.put q written).move q p = made.put p written := by
  rw [move, content?_put_self]
  exact congrArg (put · p written) (new.remove_put written)

end IsNew

/-! ### Runs -/

/-- What a replacement that began with a tree has come to. -/
def Since (before : Files) (text : String) (content : Bytes) : Files × Stage → Prop
  | (fs, .start) => fs = before
  | (fs, .draft q left) => ∃ made written,
      before.makeDirs (directories text) = (made, .ok ()) ∧ made.IsNew q ∧
        written ++ left = content ∧ fs = made.put q written
  | (fs, .done) => before.replace text content = (fs, .ok ())
  | (fs, .failed (.fault _)) => ∃ why, before.replace text content = (fs, .error why)
  | (fs, .failed (.refused _)) => fs.files = before.files

theorem replace_of_no_directory {why : Fault}
    (stuck : before.makeDirs (directories text) = (made, .error why)) :
    before.replace text content = (made, .error (.noDirectory (directoryOf text) why)) := by
  rw [directories] at stuck
  simp only [replace, stuck]

section made

variable (ready : before.makeDirs (directories text) = (made, .ok ()))
include ready

theorem replace_of_target (free : made.target text = .ok p) :
    before.replace text content = (made.put p content, .ok ()) := by
  rw [directories] at ready
  simp only [replace, ready, free]

theorem replace_of_no_target {why : Fault} (taken : made.target text = .error why) :
    before.replace text content = (made, .error (.notMoved why)) := by
  rw [directories] at ready
  simp only [replace, ready, taken]

theorem files_of_made : made.files = before.files := by
  have same := files_makeDirs (directories text) before
  rw [ready] at same
  exact same

theorem content?_of_made (r : Path) : made.content? r = before.content? r := by
  rw [content?, content?, files_of_made ready]

end made

/-- A file that is replaced has the new content, and no other file has changed. -/
theorem replace_ok {after : Files} (h : before.replace text content = (after, .ok ())) :
    ∃ p, after.lookup text = .ok (p, .file content) ∧
      ∀ q, q ≠ p → after.content? q = before.content? q := by
  rcases ready : before.makeDirs (directories text) with ⟨made, why | ⟨⟩⟩
  · rw [replace_of_no_directory ready] at h
    cases h
  · cases target : made.target text with
    | error why =>
      rw [replace_of_no_target ready target] at h
      cases h
    | ok p =>
      rw [replace_of_target ready target] at h
      cases h
      refine ⟨p, lookup_target target content, fun q other => ?_⟩
      rw [content?_put, if_neg other, content?_of_made ready]

/-- **One call keeps to what a replacement comes to.** -/
theorem Step.since {s s' : Files × Stage} (step : Step text content s s')
    (h : Since before text content s) : Since before text content s' := by
  cases step with
  | beginDraft ready there new =>
    obtain rfl : _ = before := h
    exact ⟨_, [], ready, new, rfl, rfl⟩
  | noDirectory stuck =>
    obtain rfl : _ = before := h
    exact ⟨_, replace_of_no_directory stuck⟩
  | refuseDraft fs n why =>
    obtain rfl : _ = before := h
    exact files_makeDirs _ _
  | write fs q left n =>
    obtain ⟨made, written, ready, new, whole, rfl⟩ := h
    refine ⟨made, written ++ left.take n, ready, new, ?_, append_put made q written _⟩
    rw [List.append_assoc, List.take_append_drop, whole]
  | refuse fs q left why =>
    obtain ⟨made, written, ready, new, -, rfl⟩ := h
    show ((made.put q written).remove q).files = before.files
    rw [new.remove_put, files_of_made ready]
  | moveDraft free =>
    obtain ⟨made, written, ready, new, whole, rfl⟩ := h
    obtain rfl : written = content := by rw [← whole, List.append_nil]
    show before.replace text written = _
    rw [new.move_put, replace_of_target ready ((new.target_put written).mp free)]
  | noTarget taken =>
    obtain ⟨made, written, ready, new, -, rfl⟩ := h
    show ∃ why, before.replace text content = _
    rw [new.remove_put]
    -- a path that leads through the draft fails for another reason once the draft is gone
    cases target : made.target text with
    | error why => exact ⟨_, replace_of_no_target ready target⟩
    | ok p =>
      rw [(new.target_put written).mpr target] at taken
      cases taken

/-- **Whatever calls are made, a replacement comes to what its stage says.** -/
theorem Run.since {s : Files × Stage} (run : Run text content (before, .start) s) :
    Since before text content s := by
  induction run with
  | refl => rfl
  | tail _ step ih => exact step.since ih

/-- A replacement that ends well has done what it does in one go. -/
theorem Run.replace_done {after : Files} (run : Run text content (fs, .start) (after, .done)) :
    fs.replace text content = (after, .ok ()) :=
  Run.since run

/-- A replacement that fails has changed no file. -/
theorem Run.files_failed {after : Files} {why : Failure}
    (run : Run text content (fs, .start) (after, .failed why)) : after.files = fs.files := by
  have since := Run.since run
  cases why with
  | refused why => exact since
  | fault why =>
    obtain ⟨why, replaced⟩ := since
    exact replace_error replaced

/-- Until the draft is moved, no file but the draft differs, and the draft was no file. -/
theorem Run.content?_draft {after : Files}
    (run : Run text content (fs, .start) (after, .draft q left)) :
    fs.content? q = none ∧ ∀ r, r ≠ q → after.content? r = fs.content? r := by
  obtain ⟨made, written, ready, new, -, rfl⟩ := Run.since run
  have same := content?_of_made ready
  refine ⟨same q ▸ new.content?, fun r other => ?_⟩
  rw [content?_put, if_neg other, same]

/-- Once its directory is made, a draft with a new name can be begun there. -/
def HasDraft (fs : Files) (text : String) : Prop :=
  ∃ made dir name, fs.makeDirs (directories text) = (made, .ok ()) ∧
    made.lookup (directoryOf text) = .ok (dir, .dir) ∧ made.IsNew (dir ++ [name])

/-- Where a draft can be begun, a replacement of which no call is refused comes to what it does in
one go. -/
theorem run_of_replace (draft : fs.HasDraft text) :
    (∀ after, fs.replace text content = (after, .ok ()) →
      Run text content (fs, .start) (after, .done)) ∧
    ∀ after why, fs.replace text content = (after, .error why) →
      ∃ why, Run text content (fs, .start) (after, .failed (.fault why)) := by
  obtain ⟨made, dir, name, ready, there, new⟩ := draft
  have begun : Run text content (fs, .start)
      (made.put (dir ++ [name]) [], .draft (dir ++ [name]) content) :=
    .single (.beginDraft ready there new)
  have written : Run text content (fs, .start)
      (made.put (dir ++ [name]) content, .draft (dir ++ [name]) []) := by
    have all : Step text content _ _ :=
      .write (made.put (dir ++ [name]) []) (dir ++ [name]) content content.length
    rw [List.take_length, List.drop_length, append_put, List.nil_append] at all
    exact begun.tail all
  cases target : made.target text with
  | ok p =>
    have moved : Step text content _ _ :=
      .moveDraft (q := dir ++ [name]) ((new.target_put content).mpr target)
    rw [new.move_put] at moved
    rw [replace_of_target ready target]
    refine ⟨fun after h => ?_, nofun⟩
    cases h
    exact written.tail moved
  | error why =>
    rw [replace_of_no_target ready target]
    refine ⟨nofun, fun after _ h => ?_⟩
    cases h
    cases again : (made.put (dir ++ [name]) content).target text with
    | ok p =>
      rw [(new.target_put content).mp again] at target
      cases target
    | error why =>
      have stopped : Step text content _ _ := .noTarget (q := dir ++ [name]) again
      rw [new.remove_put] at stopped
      exact ⟨_, written.tail stopped⟩

end SessionWatch.Files
