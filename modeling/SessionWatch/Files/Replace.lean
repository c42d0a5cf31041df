/-
# Replacing a file as a whole

New content is written beside the file it replaces and then moved into its
place, so that a reader sees the old content or the new one. The directory is
made if it is missing, and those above it. If anything fails, no file has
changed.

Key definitions: `Files.above?`, `Files.makeDirs`, `Files.target`, `Files.replace`.
Key theorems: `Files.replace_error`.
-/
import SessionWatch.Files.Tree

namespace SessionWatch.Files

/-- Why a file was not replaced. -/
inductive ReplaceFault where
  | noDirectory (dir : String) (why : Fault)
  | notMoved (why : Fault)

/-- What is told about a file that is not replaced. -/
def ReplaceFault.message : ReplaceFault → String
  | .noDirectory dir why => "failed to create directory `" ++ dir ++ "`: " ++ why.message
  | .notMoved why => why.message

/-- A reversed path text without slashes, and steps `.`, at its end. -/
def trimEnd : List Char → List Char
  | '/' :: c :: rest => trimEnd (c :: rest)
  | '.' :: '/' :: rest => trimEnd ('/' :: rest)
  | cs => cs

/-- The text of the directory above, which is empty above a single name; there is none above the
root and above an empty text. Both texts are reversed. -/
def above? (cs : List Char) : Option (List Char) :=
  match trimEnd cs with
  | [] | ['/'] => none
  | cs => some (trimEnd (cs.dropWhile (· ≠ '/')))

/-- The text of the directory that a file is in. -/
def directoryOf (text : String) : String :=
  match above? text.toList.reverse with
  | none | some [] => "."
  | some cs => String.ofList cs.reverse

/-- A text, reversed, and those of the directories above it, as far as they can be made. -/
def chain : (fuel : Nat) → List Char → List String
  | 0, _ => []
  | fuel + 1, cs =>
    match above? cs with
    | none => []
    | some up => String.ofList cs.reverse :: chain fuel up

/-- Makes a directory unless it is there. -/
def ensureDir (fs : Files) (text : String) : Files × Except Fault Unit :=
  match fs.makeDir text with
  | (fs, .error .alreadyThere) =>
    (fs, if fs.isDirAt text then .ok () else .error .alreadyThere)
  | r => r

/-- Makes a directory, and those above it where it cannot be made without them. -/
def makeDirs (fs : Files) : List String → Files × Except Fault Unit
  | [] => (fs, .ok ())
  | text :: above =>
    match fs.ensureDir text with
    | (fs, .error .missing) =>
      match fs.makeDirs above with
      | (fs, .ok ()) => fs.ensureDir text
      | r => r
    | r => r

/-- The place that a file is moved to. -/
def target (fs : Files) (text : String) : Except Fault Path :=
  match fs.approach text with
  | .error .nulByte => .error .invalid
  | .error f => .error f
  | .ok (_, .place) => .error .busy
  | .ok (dir, .name name) =>
    if maxNameBytes < name.utf8ByteSize then .error .nameTooLong
    else if endsWithSlash text then .error .notDirectory
    else match fs.kindAt (dir ++ [name]) with
      | .dir => .error .isDirectory
      | _ => .ok (dir ++ [name])

/-- Replaces the file at a path by one with this content. -/
def replace (fs : Files) (text : String) (content : Bytes) : Files × Except ReplaceFault Unit :=
  let dir := directoryOf text
  match fs.makeDirs (chain (dir.length + 1) dir.toList.reverse) with
  | (fs, .error why) => (fs, .error (.noDirectory dir why))
  | (fs, .ok ()) =>
    match fs.target text with
    | .error why => (fs, .error (.notMoved why))
    | .ok p => (fs.put p content, .ok ())

theorem files_ensureDir (fs : Files) (text : String) :
    (fs.ensureDir text).1.files = fs.files := by
  have h := files_makeDir fs text
  unfold ensureDir
  split
  · next h' => rw [h'] at h; exact h
  · exact h

theorem files_makeDirs (texts : List String) : ∀ fs : Files,
    (fs.makeDirs texts).1.files = fs.files := by
  induction texts with
  | nil => intro fs; rfl
  | cons text above ih =>
    intro fs
    have h := files_ensureDir fs text
    unfold makeDirs
    split
    · next fs' h' =>
      rw [h'] at h
      have up := ih fs'
      split
      · next h'' => rw [h''] at up; rw [files_ensureDir, up]; exact h
      · rw [up]; exact h
    · exact h

/-- A replacement that fails changes no file. -/
theorem replace_error {fs fs' : Files} {text : String} {content : Bytes} {f : ReplaceFault}
    (h : fs.replace text content = (fs', .error f)) : fs'.files = fs.files := by
  have made := files_makeDirs
    (chain ((directoryOf text).length + 1) (directoryOf text).toList.reverse) fs
  unfold replace at h
  dsimp only at h
  split at h
  · next h' => rw [h'] at made; cases h; exact made
  · next h' =>
    rw [h'] at made
    split at h
    · cases h; exact made
    · simp at h

end SessionWatch.Files
