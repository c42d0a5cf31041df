/-
# Files and directories

A tree of files is the list of its regular files, each under its path from the
root, with the directories that hold no file. A path text is followed name by
name, from the root or from a chosen directory; two dots lead back to the
directory above. Where something is made or moved, the last name of a path is
set apart, since it need not be there.

Key definitions: `Files`, `Files.kindAt`, `Files.follow?`, `Files.lookup`,
`Files.approach`, `Files.makeDir`, `Files.put`.
Key theorems: `Files.files_makeDir`.
-/
import SessionWatch.Text.Utf8

namespace SessionWatch

/-- The names from the root to a place. -/
abbrev Path := List String

/-- Regular files, each with its content, and directories that may be empty. -/
structure Files where
  files : List (Path × Bytes) := []
  dirs : List Path := []
  /-- Where a path starts that does not start at the root. -/
  here : Path := []

namespace Files

/-- Why a path leads nowhere. -/
inductive Fault where
  | missing
  | busy
  | alreadyThere
  | notDirectory
  | isDirectory
  /-- The text holds a null byte, which is seen before the system is asked. -/
  | nulByte
  /-- The text holds a null byte, which the system is told about. -/
  | invalid
  | nameTooLong

/-- What is told about a fault: the number and the name that the system has for it. -/
def Fault.message : Fault → String
  | .missing => "No such file or directory (os error 2)"
  | .busy => "Device or resource busy (os error 16)"
  | .alreadyThere => "File exists (os error 17)"
  | .notDirectory => "Not a directory (os error 20)"
  | .isDirectory => "Is a directory (os error 21)"
  | .nulByte => "file name contained an unexpected NUL byte"
  | .invalid => "Invalid argument (os error 22)"
  | .nameTooLong => "File name too long (os error 36)"

/-- What there is at a path. -/
inductive Kind where
  | absent
  | file (content : Bytes)
  | dir

/-- The content of the file at a path. -/
def content? (fs : Files) (p : Path) : Option Bytes :=
  (fs.files.find? fun f => f.1 = p).map (·.2)

/-- A directory holds something or is there by itself; the root always is. -/
def isDir (fs : Files) (p : Path) : Bool :=
  p.isEmpty || fs.dirs.any (p.isPrefixOf ·) || fs.files.any fun f => p.isPrefixOf f.1 && f.1 ≠ p

/-- What there is at a path of the tree. -/
def kindAt (fs : Files) (p : Path) : Kind :=
  match fs.content? p with
  | some c => .file c
  | none => if fs.isDir p then .dir else .absent

/-- The names that stand in a directory. -/
def children (fs : Files) (p : Path) : List String :=
  let below := (fs.files.map Prod.fst ++ fs.dirs).filter fun q =>
    p.isPrefixOf q && p.length < q.length
  (below.filterMap fun q => q[p.length]?).eraseDups

/-- The names in a path text. -/
def names (text : String) : List String :=
  ((text.toList.splitOn '/').filter (· ≠ [])).map String.ofList

/-- Whether a path text ends with a slash, as only that of a directory may. -/
def endsWithSlash (text : String) : Bool := text.toList.getLast? = some '/'

/-- The steps of a path text. A slash at the end asks for a directory, as a step `.` does. -/
def steps (text : String) : List String :=
  names text ++ if endsWithSlash text then ["."] else []

/-- Where a path starts. -/
def start (fs : Files) (text : String) : Path :=
  if text.toList.head? = some '/' then [] else fs.here

/-- The longest name in bytes. -/
def maxNameBytes : Nat := 255

/-- The longest path text in bytes. -/
def maxPathBytes : Nat := 4095

/-- One step from a directory. -/
def stepTo (here : Path) (name : String) : Path :=
  if name = "." then here else if name = ".." then here.dropLast else here ++ [name]

/-- A directory that a step may be taken from. -/
def checkDir (fs : Files) (p : Path) : Except Fault Unit :=
  match fs.kindAt p with
  | .absent => .error .missing
  | .file _ => .error .notDirectory
  | .dir => .ok ()

/-- Where a path leads: every step starts from a directory that is there. -/
def follow? (fs : Files) : (here : Path) → List String → Except Fault Path
  | here, [] => .ok here
  | here, name :: rest =>
    match fs.checkDir here with
    | .error f => .error f
    | .ok () =>
      if maxNameBytes < name.utf8ByteSize then .error .nameTooLong
      else follow? fs (stepTo here name) rest

/-- What can be seen of a path text before it is followed. -/
def checkText (text : String) : Except Fault Unit :=
  if text.toList.contains '\x00' then .error .nulByte
  else if text = "" then .error .missing
  else if maxPathBytes < text.utf8ByteSize then .error .nameTooLong
  else .ok ()

/-- What stands at a path. -/
def lookup (fs : Files) (text : String) : Except Fault (Path × Kind) :=
  match checkText text with
  | .error f => .error f
  | .ok () =>
    match fs.follow? (fs.start text) (steps text) with
    | .error f => .error f
    | .ok p =>
      match fs.kindAt p with
      | .absent => .error .missing
      | k => .ok (p, k)

/-- A path text names a directory that is there. -/
def isDirAt (fs : Files) (text : String) : Bool :=
  match fs.lookup text with
  | .ok (_, .dir) => true
  | _ => false

/-- The last name of a path, which need not be there. -/
inductive Last where
  /-- The path ends where it starts, or with dots: it leads to a directory that is there. -/
  | place
  | name (name : String)

/-- Follows a path up to its last name, which stands in the directory that is given. -/
def approach (fs : Files) (text : String) : Except Fault (Path × Last) :=
  match checkText text with
  | .error f => .error f
  | .ok () =>
    let ns := names text
    match fs.follow? (fs.start text) ns.dropLast with
    | .error f => .error f
    | .ok dir =>
      match fs.checkDir dir, ns.getLast? with
      | .error f, _ => .error f
      | .ok (), none | .ok (), some "." | .ok (), some ".." => .ok (dir, .place)
      | .ok (), some name => .ok (dir, .name name)

/-- Makes a directory in one that is there. -/
def makeDir (fs : Files) (text : String) : Files × Except Fault Unit :=
  match fs.approach text with
  | .error f => (fs, .error f)
  | .ok (_, .place) => (fs, .error .alreadyThere)
  | .ok (dir, .name name) =>
    if maxNameBytes < name.utf8ByteSize then (fs, .error .nameTooLong)
    else match fs.kindAt (dir ++ [name]) with
      | .absent => ({ fs with dirs := (dir ++ [name]) :: fs.dirs }, .ok ())
      | _ => (fs, .error .alreadyThere)

/-- Puts a file in the place of one that is there, or adds it. -/
def put (fs : Files) (p : Path) (content : Bytes) : Files :=
  { fs with files := (p, content) :: fs.files.filter fun f => f.1 ≠ p }

/-- No file changes when a directory is made. -/
theorem files_makeDir (fs : Files) (text : String) : (fs.makeDir text).1.files = fs.files := by
  unfold makeDir
  repeat' split
  all_goals rfl

end Files

end SessionWatch
