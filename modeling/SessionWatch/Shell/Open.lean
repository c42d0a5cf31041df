/-
# Files that a command opens

A file of a command is opened at a path, or is made to be another file that is
open. A path below `/dev` may name a file that is open, or a device. What cannot
be opened is told.

Key definitions: `Shell.State.openPath`, `Shell.State.duplicate`.
-/
import SessionWatch.Shell.State

namespace SessionWatch.Shell.State

/-- The file that is open already at a path. -/
def openAt? (path : String) : Option Nat :=
  match path with
  | "/dev/stdin" => some 0
  | "/dev/stdout" => some 1
  | "/dev/stderr" => some 2
  | _ =>
    if path.startsWith "/dev/fd/" then Utility.number? (path.drop 8).toString
    else if path.startsWith "/proc/self/fd/" then Utility.number? (path.drop 14).toString
    else none

/-- Why a file cannot be opened; `made` if it would have been made. -/
def whyNot (made : Bool) : Files.Fault → String
  | .missing | .notDirectory => if made then "Directory nonexistent" else "No such file"
  | f => Utility.describe f

/-- Opens a file to read from it. -/
def openToRead (s : State) (file : Nat) (path : String) : Except String State :=
  match s.files.lookup path with
  | .error f => .error ("cannot open " ++ path ++ ": " ++ whyNot false f)
  | .ok (p, .file content) =>
    if p.head? = some "dev" then .ok (s.setEnd file (some .null))
    else
      let (e, s) := s.newSource { pieces := [(s.now, (Text.ofBytes content).toList)], seekable := true }
      .ok (s.setEnd file (some e))
  | .ok (_, _) => .ok (s.setEnd file (some .null))

/-- Opens a file to print to it, which is emptied first unless it is to grow. -/
def openToWrite (s : State) (file : Nat) (grow : Bool) (path : String) : Except String State :=
  let no := fun (f : Files.Fault) =>
    Except.error ("cannot create " ++ path ++ ": " ++ whyNot true f)
  match s.files.approach path with
  | .error f => no f
  | .ok (_, .place) => no .isDirectory
  | .ok (dir, .name name) =>
    let p := dir ++ [name]
    match s.files.kindAt p with
    | .dir => no .isDirectory
    | k =>
      if Files.maxNameBytes < name.utf8ByteSize then no .nameTooLong
      else if Files.endsWithSlash path then
        no (if k matches .absent then .isDirectory else .notDirectory)
      else if p.head? = some "dev" then .ok (s.setEnd file (some .null))
      else
        let before := if grow then (s.world.files.content? p).getD [] else []
        let files := s.world.files.put p before
        .ok ({ s with world := { s.world with files := files } }.setEnd file (some (.file p)))

/-- Opens a file at a path; or why that is not possible. -/
def openPath (s : State) (file : Nat) (access : Access) (path : String) : Except String State :=
  match openAt? path with
  | some other =>
    match s.end? other with
    | some e => .ok (s.setEnd file (some e))
    | none => .error ("cannot open " ++ path ++ ": No such file")
  | none =>
    match access with
    | .read => s.openToRead file path
    | .readWrite => (s.openToWrite file true path).bind fun s => s.openToRead file path
    | .write => s.openToWrite file false path
    | .append => s.openToWrite file true path

/-- Makes a file another one that is open, or closes it; or why that is not possible. -/
def duplicate (s : State) (file : Nat) (other : String) : Except String State :=
  if other = "-" then .ok (s.setEnd file none)
  else match (Utility.number? other).map s.end? with
    | some (some e) => .ok (s.setEnd file (some e))
    | some none => .error (other ++ ": Bad file descriptor")
    | none => .error "Bad fd number"

end SessionWatch.Shell.State
