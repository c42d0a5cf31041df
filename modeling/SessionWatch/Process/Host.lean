/-
# Where programs are found

A program is named by a path, or by a name that is looked for in a few
directories. It starts unless it cannot be found or run, or has too long
arguments. What every system has in its directories is known here; a program
may also be a script that is installed for the purpose.

Key definitions: `Host`, `Host.look`, `Host.find`, `StartFault`.
-/
import SessionWatch.Files.Tree

namespace SessionWatch

/-- Why a program cannot be started. -/
inductive StartFault where
  | missing
  | tooMuch
  | denied
  | notDirectory
  | nameTooLong
  | nulByte
  deriving DecidableEq

/-- What is told about a program that does not start. -/
def StartFault.message : StartFault → String
  | .missing => "No such file or directory (os error 2)"
  | .tooMuch => "Argument list too long (os error 7)"
  | .denied => "Permission denied (os error 13)"
  | .notDirectory => "Not a directory (os error 20)"
  | .nameTooLong => "File name too long (os error 36)"
  | .nulByte => "nul byte found in provided data"

namespace Files

/-- Directories that every system has. -/
def commonDirs : List Path :=
  [["bin"], ["boot"], ["dev", "pts"], ["dev", "shm"], ["etc"], ["home"], ["lib"], ["media"],
   ["mnt"], ["opt"], ["proc"], ["root"], ["run"], ["sbin"], ["srv"], ["sys"], ["tmp"],
   ["usr", "bin"], ["usr", "lib"], ["usr", "local", "bin"], ["usr", "local", "sbin"],
   ["usr", "sbin"], ["usr", "share"], ["var", "cache"], ["var", "lib"], ["var", "log"],
   ["var", "tmp"]]

/-- Devices that every system has. -/
def commonDevices : List Path :=
  [["dev", "full"], ["dev", "null"], ["dev", "random"], ["dev", "tty"], ["dev", "urandom"],
   ["dev", "zero"]]

/-- Files that every system has, each with the beginning of its content. -/
def commonFiles : List (Path × Bytes) :=
  (commonDevices.map fun p => (p, []))
    ++ [("fstab", "#\n"), ("group", "root:x:0:\n"), ("hostname", "localhost\n"),
      ("hosts", "127.0.0.1\tlocalhost\n"), ("passwd", "root:x:0:0:root:/root:/bin/bash\n"),
      ("profile", "#\n"), ("resolv.conf", "#\n"), ("shadow", "root:*:\n")].map fun (name, text) =>
        (["etc", name], Text.utf8 text)

/-- Files with what every system has beside them. -/
def withCommon (fs : Files) : Files :=
  { fs with
    files := fs.files ++ commonFiles
    dirs := fs.dirs ++ commonDirs }

end Files

/-- What programs there are. -/
structure Host where
  /-- The names of the programs in the directories for programs. -/
  programs : List String
  /-- Scripts that are found before them, each with its text. -/
  scripts : List (String × String) := []

/-- A program that was found. -/
inductive Installed where
  | program (name : String)
  | script (name text : String)
  deriving DecidableEq

/-- What a path leads to, as far as it matters for a program. -/
inductive Look where
  | nothing (why : Files.Fault)
  | directory
  | device
  | file (content : Bytes)
  | executable (p : Installed)

namespace Host

/-- The directories that programs are in. -/
def programDirs : List Path := [["bin"], ["usr", "bin"]]

/-- The directories that programs are looked for in, as a text. -/
def searchPath : String := "/usr/local/sbin:/usr/local/bin:/usr/sbin:/usr/bin:/sbin:/bin"

/-- What stands at a path. -/
def look (h : Host) (fs : Files) (path : String) : Look :=
  match fs.approach path with
  | .error f => .nothing f
  | .ok (_, .place) => .directory
  | .ok (dir, .name name) =>
    if programDirs.contains dir ∧ h.programs.contains name then
      if Files.endsWithSlash path then .nothing .notDirectory else .executable (.program name)
    else match fs.lookup path with
      | .error f => .nothing f
      | .ok (_, .dir) => .directory
      | .ok (p, .file content) => if p.head? = some "dev" then .device else .file content
      | .ok (_, .absent) => .nothing .missing

/-- Why a program cannot be started that no path leads to. -/
def startFault : Files.Fault → StartFault
  | .notDirectory => .notDirectory
  | .nameTooLong => .nameTooLong
  | .nulByte | .invalid => .nulByte
  | .missing | .busy | .alreadyThere | .isDirectory => .missing

/-- The program at a path. -/
def atPath (h : Host) (fs : Files) (path : String) : Except StartFault Installed :=
  match h.look fs path with
  | .nothing f => .error (startFault f)
  | .directory | .device | .file _ => .error .denied
  | .executable p => .ok p

/-- The program of a name, looked for in directories one after the other. What may not be run is
remembered, but the search goes on. -/
def search (h : Host) (fs : Files) (name : String) (fault : StartFault) :
    List String → Except StartFault Installed
  | [] => .error fault
  | dir :: dirs =>
    match h.atPath fs (if dir = "" then name else dir ++ "/" ++ name) with
    | .ok p => .ok p
    | .error .denied => search h fs name .denied dirs
    | .error _ => search h fs name fault dirs

/-- The program that a path leads to, or that has this name in one of the directories. -/
def find (h : Host) (fs : Files) (dirs : List String) (name : String) :
    Except StartFault Installed :=
  if name.contains '\x00' then .error .nulByte
  else if name.contains '/' then h.atPath fs name
  else if Files.maxNameBytes < name.utf8ByteSize then .error .nameTooLong
  else if name = "" then .error .missing
  else match h.scripts.lookup name with
    | some text => .ok (.script name text)
    | none => h.search fs name .missing dirs

/-- One argument may have fewer bytes than this. -/
def maxArgumentBytes : Nat := 131072

/-- All arguments together may have no more bytes than this. -/
def maxArgumentsBytes : Nat := 2091008

/-- The arguments of a program, its name among them, are not too long. Each takes its bytes, a
byte at its end and a word. -/
def checkArguments (args : List String) : Except StartFault Unit :=
  if args.any fun a => maxArgumentBytes ≤ a.utf8ByteSize then .error .tooMuch
  else if maxArgumentsBytes < args.foldl (fun size a => size + (a.utf8ByteSize + 9)) 0 then .error .tooMuch
  else .ok ()

end Host

end SessionWatch
