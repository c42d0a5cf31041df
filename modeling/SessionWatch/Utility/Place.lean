/-
# Programs for names and files

Key definitions: `Utility.basename`, `Utility.dirname`, `Utility.mkdir`,
`Utility.rm`, `Utility.touch`, `Utility.ls`, `Utility.tee`.
-/
import SessionWatch.Files.Replace
import SessionWatch.Process.Host
import SessionWatch.Utility.Basic

namespace SessionWatch.Utility

/-! ## Names -/

/-- A path text without slashes at its end. -/
def withoutSlashes (s : String) : String :=
  let cs := s.toList.reverse.dropWhile (· = '/')
  if cs.isEmpty ∧ s ≠ "" then "/" else String.ofList cs.reverse

/-- The last name of a path. -/
def lastName (s : String) : String :=
  let s := withoutSlashes s
  if s = "/" then s else String.ofList (s.toList.reverse.takeWhile (· ≠ '/')).reverse

/-- A name without an ending, unless that is all of it. -/
def withoutEnding (ending name : String) : String :=
  if ending ≠ name ∧ name.endsWith ending then
    (name.take (name.length - ending.length)).toString else name

/-- Prints the last name of a path. -/
def basename (c : Call) : Effect :=
  match c.options { flags := "az", valued := "s" } false with
  | .error why => c.misused why 1
  | .ok o =>
    let several := o.has 'a' || o.has 's'
    match o.operands with
    | [] => c.fails "missing operand" 1
    | [name] => c.prints (withoutEnding ((o.value? 's').getD "") (lastName name) ++ "\n") 0
    | [name, ending] =>
      if several then
        c.prints (String.join ([name, ending].map fun n =>
          withoutEnding ((o.value? 's').getD "") (lastName n) ++ "\n")) 0
      else c.prints (withoutEnding ending (lastName name) ++ "\n") 0
    | names =>
      if several then
        c.prints (String.join (names.map fun n =>
          withoutEnding ((o.value? 's').getD "") (lastName n) ++ "\n")) 0
      else c.fails "extra operand" 1

/-- The path of the directory that a path leads into. -/
def directoryName (s : String) : String :=
  let s := withoutSlashes s
  if s = "/" then s
  else
    let cs := s.toList.reverse.dropWhile (· ≠ '/')
    if cs.isEmpty then "." else withoutSlashes (String.ofList cs.reverse)

/-- Prints the directories of paths. -/
def dirname (c : Call) : Effect :=
  let args := if c.args.head? = some "--" then c.args.drop 1 else c.args
  if args.isEmpty then c.fails "missing operand" 1
  else c.prints (String.join (args.map fun n => directoryName n ++ "\n")) 0

/-- The names of a path from the root on, dots followed. -/
def normal (here : Path) (s : String) : Path :=
  (Files.names s).foldl Files.stepTo (if s.startsWith "/" then [] else here)

/-- Prints paths from the root on. -/
def realpath (c : Call) : Effect :=
  match c.options { flags := "emsqfn" } true with
  | .error why => c.misused why 1
  | .ok o =>
    let results := o.operands.map fun s =>
      let p := normal c.files.here s
      match c.files.kindAt p.dropLast with
      | .dir => some ("/" ++ "/".intercalate p ++ "\n")
      | _ => none
    { c.prints (String.join (results.filterMap id)) (if results.all Option.isSome then 0 else 1)
      with errors := "" }

/-! ## Files -/

/-- Does something for each operand, as far as it goes. -/
def Call.each (c : Call) (operands : List String)
    (step : Files → String → Except Files.Fault Files) (what : String → String) : Effect :=
  let (fs, errors) := operands.foldl
    (fun (acc : Files × String) name =>
      match step acc.1 name with
      | .ok fs => (fs, acc.2)
      | .error f => (acc.1, acc.2 ++ c.name ++ ": " ++ what name ++ ": " ++ describe f ++ "\n"))
    (c.files, "")
  { errors := errors, rest := some c.input, files := some fs
    status := if errors = "" ∧ ¬ operands.isEmpty then 0 else 1 }

/-- Makes directories. -/
def mkdir (c : Call) : Effect :=
  match c.options { flags := "pv", valued := "m", long := [("parents", 'p')] } true with
  | .error why => c.misused why 1
  | .ok o =>
    c.each o.operands
      (fun fs name =>
        let r := if o.has 'p' then
            fs.makeDirs (Files.chain (name.length + 1) name.toList.reverse)
          else fs.makeDir name
        match r with
        | (fs, .ok ()) => .ok fs
        | (_, .error f) => .error f)
      fun name => "cannot create directory '" ++ name ++ "'"

/-- The files without what is at a path and below it. -/
def without (fs : Files) (p : Path) : Files :=
  { fs with
    files := fs.files.filter fun f => !p.isPrefixOf f.1
    dirs := p.dropLast :: fs.dirs.filter fun d => !p.isPrefixOf d }

/-- Removes files, and directories if it is told so. -/
def rm (c : Call) : Effect :=
  match c.options { flags := "rRfvd", long := [("recursive", 'r'), ("force", 'f')] } true with
  | .error why => c.misused why 1
  | .ok o =>
    let e := c.each o.operands
      (fun fs name =>
        match fs.lookup name with
        | .error .missing => if o.has 'f' then .ok fs else .error .missing
        | .error f => .error f
        | .ok (p, .dir) => if o.has 'r' ∨ o.has 'R' then .ok (without fs p) else .error .isDirectory
        | .ok (p, _) => .ok (without fs p))
      fun name => "cannot remove '" ++ name ++ "'"
    if o.operands.isEmpty ∧ o.has 'f' then { e with status := 0 } else e

/-- Removes empty directories. -/
def rmdir (c : Call) : Effect :=
  c.each c.args
    (fun fs name =>
      match fs.lookup name with
      | .error f => .error f
      | .ok (p, .dir) =>
        if fs.files.any (fun f => p.isPrefixOf f.1) ∨ fs.dirs.any fun d => p.isPrefixOf d ∧ d ≠ p
        then .error .alreadyThere else .ok (without fs p)
      | .ok (_, _) => .error .notDirectory)
    fun name => "failed to remove '" ++ name ++ "'"

/-- The place of a file that is there or may be made. -/
def filePlace (fs : Files) (name : String) : Except Files.Fault Path :=
  match fs.approach name with
  | .error f => .error f
  | .ok (_, .place) => .error .isDirectory
  | .ok (dir, .name last) =>
    if Files.maxNameBytes < last.utf8ByteSize then .error .nameTooLong
    else match fs.kindAt (dir ++ [last]) with
      | .dir => .error .isDirectory
      | _ => if Files.endsWithSlash name then .error .notDirectory else .ok (dir ++ [last])

/-- Makes empty files where there are none. -/
def touch (c : Call) : Effect :=
  match c.options { flags := "acm", valued := "drt" } true with
  | .error why => c.misused why 1
  | .ok o =>
    c.each o.operands
      (fun fs name =>
        match filePlace fs name with
        | .error .isDirectory => .ok fs
        | .error f => .error f
        | .ok p =>
          match fs.content? p with
          | some _ => .ok fs
          | none => .ok (if o.has 'c' then fs else fs.put p []))
      fun name => "cannot touch '" ++ name ++ "'"

/-- Copies or moves one file. -/
def copyTo (moves : Bool) (c : Call) : Effect :=
  match c.options { flags := "frRapnvT" } true with
  | .error why => c.misused why 1
  | .ok o =>
    match o.operands with
    | [a, b] =>
      c.each [a]
        (fun fs _ =>
          match fs.lookup a with
          | .error f => .error f
          | .ok (p, .file content) =>
            let b := if fs.isDirAt b then b ++ "/" ++ lastName a else b
            match filePlace fs b with
            | .error f => .error f
            | .ok q =>
              let fs := if moves then without fs p else fs
              .ok (fs.put q content)
          | .ok (_, _) => .error .isDirectory)
        fun name => "cannot stat '" ++ name ++ "'"
    | _ => c.fails "missing file operand" 1

/-- Lists files: the names in directories, and those of other files. -/
def ls (c : Call) : Effect :=
  match c.options { flags := "1aAdlhrtSRFC" } true with
  | .error why => c.misused why 2
  | .ok o =>
    let inside := fun p : Path =>
      ((c.files.children p).filter fun n =>
        o.has 'a' || o.has 'A' || !n.startsWith ".").mergeSort
    let (out, errors) := (if o.operands.isEmpty then ["."] else o.operands).foldl
      (fun (acc : List String × String) name =>
        match c.files.lookup name with
        | .error f =>
          (acc.1, acc.2 ++ "ls: cannot access '" ++ name ++ "': " ++ describe f ++ "\n")
        | .ok (p, .dir) => (acc.1 ++ (if o.has 'd' then [name] else inside p), acc.2)
        | .ok (_, _) => (acc.1 ++ [name], acc.2))
      ([], "")
    { output := String.join (out.map (· ++ "\n")), errors := errors, rest := some c.input
      status := if errors = "" then 0 else 2 }

/-- Makes a file or a directory with a new name and prints the name. -/
def mktemp (c : Call) : Effect :=
  match c.options { flags := "dqtu", valued := "p" } true with
  | .error why => c.misused why 1
  | .ok o =>
    let template := o.operands.head?.getD "/tmp/tmp.XXXXXXXXXX"
    let front := String.ofList (template.toList.reverse.dropWhile (· = 'X')).reverse
    let fresh := (List.range 1000).find? fun k =>
      !(c.files.lookup (front ++ padLeft 10 '0' (toString k)) matches .ok _)
    let name := front ++ padLeft 10 '0' (toString (fresh.getD 0))
    if o.has 'd' then
      match c.files.makeDir name with
      | (fs, .ok ()) => { c.prints (name ++ "\n") 0 with files := some fs }
      | (_, .error f) => c.fails (describe f) 1
    else match filePlace c.files name with
      | .ok p => { c.prints (name ++ "\n") 0 with files := some (c.files.put p []) }
      | .error f => c.fails (describe f) 1

/-- Prints the input and writes it to files. -/
def tee (c : Call) : Effect :=
  match c.options { flags := "aip", long := [("append", 'a')] } true with
  | .error why => c.misused why 1
  | .ok o =>
    let bytes := Text.toBytes (String.ofList c.input)
    let e := c.each o.operands
      (fun fs name =>
        match filePlace fs name with
        | .error f => .error f
        | .ok p =>
          if p.head? = some "dev" then .ok fs
          else .ok (fs.put p ((if o.has 'a' then (fs.content? p).getD [] else []) ++ bytes)))
      id
    let twice := o.operands.contains "/dev/stdout"
    let text := String.ofList c.input
    { e with
      output := if twice then text ++ text else text, rest := none
      status := if o.operands.isEmpty then 0 else e.status }

end SessionWatch.Utility
