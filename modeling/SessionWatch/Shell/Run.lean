/-
# Carrying out scripts

A script is carried out command by command. Words are filled in first, then files
are opened, then the command is carried out: a function, a command of the shell
itself, or a program. A program may be another shell. Parts of a script that must
not change the shell are carried out by a copy of it, and so are the two sides of
a pipe, which begin at the same time.

All functions here take as their first argument how deep a script may go; one that
goes deeper is taken to go on for ever.

Key definitions: `Shell.Standing`, `Shell.run`, `Shell.launch`, `Shell.execute`.
-/
import SessionWatch.Shell.Arithmetic
import SessionWatch.Shell.Open
import SessionWatch.Shell.Parameter
import SessionWatch.Shell.Start

namespace SessionWatch.Shell

open Utility (never)

/-- Where a script stands. -/
structure Standing where
  /-- Something depends on its status, so that a failure does not end the shell. -/
  tested : Bool := false
  /-- Nothing is left to be done for the shell after it. -/
  last : Bool := false

/-! ## Loops -/

/-- How often a loop may go around. -/
def manyRounds : Nat := 250000

/-- Repeats a step as long as it says so. A loop that goes around too often never ends. -/
def rounds {α : Type} (step : α → α × Bool) (giveUp : α → α) : (n : Nat) → α → α
  | 0, a => giveUp a
  | n + 1, a =>
    match step a with
    | (a, true) => rounds step giveUp n a
    | (a, false) => a

/-- The end of a round: how the shell goes on, and whether with another round. -/
def endRound (s : State) : State × Bool :=
  match s.flow with
  | .on => (s, true)
  | .breaks n => ({ s with flow := if 1 < n then .breaks (n - 1) else .on }, false)
  | .continues n =>
    if 1 < n then ({ s with flow := .continues (n - 1) }, false) else ({ s with flow := .on }, true)
  | .returns | .exits _ => (s, false)

/-! ## Values -/

/-- A text without the line feeds at its end, and without null bytes. -/
def trimOutput (s : String) : String :=
  String.ofList ((s.toList.reverse.dropWhile (· = '\n')).reverse.filter (· ≠ '\x00'))

/-- A word whose tilde in front stands for a directory. -/
def homeAtFront (w : Word) : Word :=
  match w with
  | [.char '~' false] => [.parameter "HOME" true]
  | .char '~' false :: .char '/' q :: rest => .parameter "HOME" true :: .char '/' q :: rest
  | w => w

/-- The cells of a parameter that has a value; all arguments are fields of their own. -/
def valueCells (s : State) (quoted : Bool) (name value : String) : List Cell :=
  if name = "@" ∨ (name = "*" ∧ ¬ quoted) then
    [Cell.boundary].intercalate (s.arguments.map (Cell.ofValue quoted))
  else Cell.ofValue quoted value

/-- A parameter that a script insists on has no value. -/
def unsetParameter (s : State) (name : String) : State :=
  s.fail (name ++ ": parameter not set")

/-- The value of an expression, and the variables that it sets. -/
def calculate (s : State) (expression : String) : String × State :=
  match Arithmetic.evaluate (fun n => (s.parameter? n).getD "") expression with
  | .error f => ("", s.fail (f.message expression))
  | .ok (n, sets) =>
    (toString n, sets.foldl (fun s p => if s.isOn then s.set p.1 (toString p.2) else s) s)

/-! ## Commands -/

/-- A program that is not found, or cannot be run. -/
def notRun (s : State) (name : String) (why : StartFault) : State :=
  let (text, status) := match why with
    | .denied => ("Permission denied", 126)
    | .tooMuch => ("Argument list too long", 126)
    | .nameTooLong => ("File name too long", 127)
    | .missing | .notDirectory | .nulByte => if name = "" then ("Permission denied", 127)
      else ("not found", 127)
  { s.complain (name ++ ": " ++ text) with status := status }

/-- What a small program leaves. -/
def settle (s : State) (e : Utility.Effect) : Ended :=
  let s := { s with inner := true }.consume 0 e.rest e.block
  let s := { s with now := s.now + e.ms }
  let s := match e.files with
    | some files => { s with world := { s.world with files := files } }
    | none => s
  let s := s.print 2 e.errors
  let (s, status) : State × Nat := match s.write 1 e.output with
    | some s => (s, e.status)
    | none => if e.output = "" then (s, e.status) else (s, 1)
  { world := s.world, exit := .code status, time := if e.endless then never else s.now
    endless := e.endless }

/-- Complaints of a program in the name that it was started under. -/
def inNameOf (own name : String) (e : Utility.Effect) : Utility.Effect :=
  if own = name then e
  else
    let renamed := fun (line : String) =>
      match line.dropPrefix? (own ++ ": ") with
      | some rest => name ++ ": " ++ rest.toString
      | none => line
    { e with errors := "\n".intercalate ((e.errors.splitOn "\n").map renamed) }

/-- A program ends with a status at once. -/
def endWith (s : State) (errors : String) (status : Nat) : Ended :=
  { world := (s.print 2 errors).world, exit := .code status, time := s.now }

/-- What a program leaves that was ended when its time was over, if it was. -/
def cutShort (s : State) (job : Nat) (l : Utility.Limit) (e : Ended) : Ended :=
  let time := s.now + l.ms
  if e.time ≤ time then e
  else
    let exit : Exit := if l.signal = 9 then .signal 9
      else .code (if l.plain then 128 + l.signal else 124)
    { world := State.cutJob e.world job time (.signal l.signal), exit := exit, time := time }

/-- The settings in front of a command. -/
def splitSettings (words : List Word) : List (String × Word) × List Word :=
  (words.filterMap Script.assignment? |>.take (words.takeWhile fun w =>
      (Script.assignment? w).isSome).length,
    words.dropWhile fun w => (Script.assignment? w).isSome)

/-- Commands whose arguments may be settings, which are not cut into fields. -/
def declares (words : List Word) : Bool :=
  match words.head?.bind Word.text? with
  | some name => ["export", "local", "readonly"].contains name
  | none => false

/-- Puts variables back to what they were. -/
def restore (s : State) (saved : List (String × Option Variable)) : State :=
  saved.foldl
    (fun s p => match p.2 with
      | some v => s.put v
      | none => { s with vars := s.vars.filter (·.name ≠ p.1) })
    s

/-- A line that tells what is carried out. -/
def trace (s : State) (settings : List (String × String)) (fields : List String) : State :=
  if s.options.contains 'x' then
    let words := (settings.map fun p => p.1 ++ "=" ++ p.2) ++ fields
    s.print 2 ((s.value? "PS4").getD "" ++ " ".intercalate words ++ "\n")
  else s

/-- The shell ends if a command has failed on which nothing depends. -/
def checkFailure (m : Standing) (s : State) : State :=
  if s.isOn ∧ s.status ≠ 0 ∧ ¬ m.tested ∧ s.options.contains 'e' then s.exit s.status else s

/-- How deep functions may call each other. -/
def maxCalls : Nat := 1000

/-- The number that an argument of exit or return gives. -/
def statusOf (s : State) (name : String) (args : List String) : Except State Nat :=
  match args with
  | [] => .ok s.status
  | a :: _ =>
    match Utility.number? a with
    | some n => .ok n
    | none => .error (Builtin.mistake s name ("Illegal number: " ++ a))

/-- Leaves loops, or rounds of them. -/
def leaveLoops (flow : Nat → Flow) (s : State) (name : String) (args : List String) : State :=
  match args.head?.map Utility.number? with
  | some none | some (some 0) =>
    Builtin.mistake s name ("Illegal number: " ++ args.head?.getD "")
  | some (some n) =>
    if s.loops = 0 then Builtin.done s 0
    else { s with flow := flow (min n s.loops), status := 0 }
  | none => if s.loops = 0 then Builtin.done s 0 else { s with flow := flow 1, status := 0 }

/-- Prints what is known about names. -/
def describeAll (s : State) (name : String) (short : Bool) (names : List String) : State :=
  let known := names.map fun n => (n, Builtin.describe s short n)
  let lines := known.filterMap fun (n, d) => match d with
    | some text => some (text ++ "\n")
    | none => if short then none else some (n ++ ": not found\n")
  Builtin.say s name (String.join lines) (if known.all (·.2.isSome) then 0 else 127)

/-- The text of a file that holds a script, which may be the input. -/
def scriptAt (s : State) (path : String) : Option (String × State) :=
  if State.openAt? path = some 0 then
    some (String.ofList (s.readable 0), s.drain 0)
  else match s.files.lookup path with
    | .ok (_, .file content) => some (Text.ofBytes content, s)
    | .ok (_, _) => some ("", s)
    | .error _ => none

/-- The last of the lines of a program is the last of the shell, if nothing follows it. -/
def endsWithCommand (p : Program) (text : String) : Bool :=
  p.sound && text.toList.getLast? != some '\n'

mutual

/-- The cells that a word is filled in with. -/
def expand : (depth : Nat) → Word → State → List Cell × State
  | 0, _, s => ([], s.giveUp)
  | depth + 1, w, s =>
    let (cells, s) := w.foldl
      (fun (acc : List (List Cell) × State) p =>
        if acc.2.isOn then
          let (cells, s) := fill depth p acc.2
          (cells :: acc.1, s)
        else acc)
      ([], s)
    (cells.reverse.flatten, s)

/-- The cells that a part of a word is filled in with. -/
def fill : (depth : Nat) → Piece → State → List Cell × State
  | 0, _, s => ([], s.giveUp)
  | depth + 1, p, s =>
    match p with
    | .char c quoted => ([.char c quoted false], s)
    | .nothing => ([.quotes], s)
    | .parameter text quoted =>
      match Parameter.read? quoted text with
      | none => ([], s.fail "Bad substitution")
      | some p => use depth quoted p s
    | .output text quoted =>
      match text.toList with
      | '(' :: cs =>
        match if cs.getLast? = some ')' then
            Word.ofText? .lines true (String.ofList cs.dropLast) else none with
        | none => ([], s.fail "Syntax error: Missing '))'")
        | some w =>
          let (expression, s) := textOf depth w s
          if s.isOn then
            let (value, s) := calculate s expression
            (Cell.ofValue quoted value, s)
          else ([], s)
      | _ =>
        let (out, s) := output depth text s
        (Cell.ofValue quoted out, s)

/-- The cells of a parameter and what is done with its value. -/
def use : (depth : Nat) → (quoted : Bool) → Parameter → State → List Cell × State
  | 0, _, _, s => ([], s.giveUp)
  | depth + 1, quoted, p, s =>
    let value := s.parameter? p.name
    let absent := fun (colon : Bool) => match value with
      | some v => colon && v = ""
      | none => true
    let present := valueCells s quoted p.name (value.getD "")
    let insists := value.isNone && s.options.contains 'u' && p.name ≠ "@" && p.name ≠ "*"
    let cut := fun (f : Pattern → List Char → List Char) (w : Word) =>
      if insists then ([], unsetParameter s p.name)
      else
        let (cells, s) := expand depth w s
        let marked := Cell.marked cells
        let pattern := Pattern.ofChars (marked.length + 1) marked
        (Cell.ofValue quoted (String.ofList (f pattern (value.getD "").toList)), s)
    match p.use with
    | .value => if insists then ([], unsetParameter s p.name) else (present, s)
    | .length =>
      if insists then ([], unsetParameter s p.name)
      else (Cell.ofValue quoted (toString (value.getD "").length), s)
    | .fallback colon w =>
      if absent colon then
        let (cells, s) := expand depth w s
        (Cell.standIn quoted cells, s)
      else (present, s)
    | .instead colon w =>
      if absent colon then (Cell.ofValue quoted "", s)
      else
        let (cells, s) := expand depth w s
        (Cell.standIn quoted cells, s)
    | .assign colon w =>
      if absent colon then
        let (text, s) := textOf depth w s
        let s := if ¬ s.isOn then s
          else if Script.isName p.name then s.set p.name text
          else s.fail (p.name ++ ": bad variable name")
        (Cell.ofValue quoted text, s)
      else (present, s)
    | .insist colon w =>
      if absent colon then
        let (text, s) := textOf depth w s
        let text := if w.isEmpty then
            if colon then "parameter not set or null" else "parameter not set"
          else text
        ([], if s.isOn then s.fail (p.name ++ ": " ++ text) else s)
      else (present, s)
    | .cutFront longest w => cut (fun p => p.cutFront longest) w
    | .cutBack longest w => cut (fun p => p.cutBack longest) w

/-- The output of a script that a copy of the shell carries out. -/
def output : (depth : Nat) → String → State → String × State
  | 0, _, s => ("", s.giveUp)
  | depth + 1, text, s =>
    let (k, s) := s.fresh
    let inner := whole depth { last := true } text (s.copy.setEnd 1 (some (.sink k)))
    let e := (finish depth inner).ended
    let out := String.join ((State.printed e.world k).map Chunk.text)
    let t := s.after { e with time := State.closing e.world k e.time }
    (trimOutput out, { t with status := s.status, taken := some e.exit.status })

/-- The text of a word that is not cut into fields. -/
def textOf : (depth : Nat) → Word → State → String × State
  | 0, _, s => ("", s.giveUp)
  | depth + 1, w, s =>
    let (cells, s) := expand depth (homeAtFront w) s
    (Cell.text cells, s)

/-- The fields of words; settings among them are not cut if `whole`. -/
def fieldsOf : (depth : Nat) → (whole : Bool) → List Word → State → List String × State
  | 0, _, _, s => ([], s.giveUp)
  | depth + 1, whole, ws, s =>
    let (found, s) := ws.foldl
      (fun (acc : List (List String) × State) w =>
        let (found, s) := acc
        if ¬ s.isOn then acc
        else match if whole then Script.assignment? w else none with
          | some (name, value) =>
            let (text, s) := textOf depth value s
            ([name ++ "=" ++ text] :: found, s)
          | none =>
            let (cells, s) := expand depth (homeAtFront w) s
            let fs := fields s.separators cells
            (if s.options.contains 'f' then fs.map Field.text :: found
              else fs.flatMap (Field.paths s.files) :: found, s))
      ([], s)
    (found.reverse.flatten, s)

/-- Opens the files of a command; the first part says whether that was possible. -/
def openAll : (depth : Nat) → List Redirect → State → Bool × State
  | 0, _, s => (false, s.giveUp)
  | depth + 1, rs, s =>
    rs.foldl
      (fun acc r =>
        let (ok, s) := acc
        if ¬ ok ∨ ¬ s.isOn then acc
        else
          let opened := fun (result : Except String State) (s : State) =>
            match result with
            | .ok s => (true, s)
            | .error why => (false, { s.complain why with status := 2 })
          match r with
          | .path file access w =>
            let (path, s) := textOf depth w s
            if s.isOn then opened (s.openPath file access path) s else (false, s)
          | .duplicate file w =>
            let (other, s) := textOf depth w s
            if s.isOn then opened (s.duplicate file other) s else (false, s)
          | .lines file w =>
            let (cells, s) := expand depth w s
            let (e, s) := s.newSource { pieces := [(s.now, (Cell.text cells).toList)] }
            (s.isOn, s.setEnd file (some e)))
      (true, s)

/-- Sets variables in front of a command one after the other. -/
def settingsOf : (depth : Nat) → List (String × Word) → State →
    List (String × String) × State
  | 0, _, s => ([], s.giveUp)
  | depth + 1, settings, s =>
    let (found, s) := settings.foldl
      (fun (acc : List (String × String) × State) p =>
        if ¬ acc.2.isOn then acc
        else
          let (text, s) := textOf depth p.2 acc.2
          ((p.1, text) :: acc.1, if s.isOn then s.set p.1 text else s))
      ([], s)
    (found.reverse, s)

/-- Carries out a text line by line. What stands before a mistake is still carried out. -/
def whole : (depth : Nat) → Standing → String → State → State
  | 0, _, _, s => s.giveUp
  | depth + 1, m, text, s =>
    let p := Program.ofText text
    let final := p.lines.length
    let s := (p.lines.zipIdx 1).foldl
      (fun s l =>
        if s.isOn then
          run depth { m with last := m.last && l.2 = final && endsWithCommand p text } l.1 s
        else s)
      s
    if s.isOn ∧ ¬ p.sound then
      { s with line := text.toList.count '\n' + 1 }.fail "Syntax error"
    else s

/-- What is left to be done when a shell has ended. -/
def finish : (depth : Nat) → State → State
  | 0, s => s.giveUp
  | depth + 1, s =>
    let status? := match s.flow with
      | .exits (.code n) => some n
      | .exits (.signal _) => none
      | _ => some s.status
    match status?, s.traps.lookup 0 with
    | some status, some action =>
      if s.endless ∨ s.tail.isSome then s
      else
        let t := whole depth {} action
          { s with flow := .on, traps := s.traps.filter (·.1 ≠ 0), status := status, loops := 0 }
        match t.flow with
        | .exits _ => t
        | _ => { t with flow := .exits (.code status) }
    | _, _ => s

/-- Does what is to be done about signals that have come. -/
def heed : (depth : Nat) → State → State
  | 0, s => s.giveUp
  | depth + 1, s =>
    let mine := fun (d : Doom) => d.shell = s.shell && d.time ≤ s.now
    if s.inner ∨ ¬ s.isOn ∨ ¬ s.world.dooms.any mine then s
    else
      let come := s.world.dooms.filter mine
      let s := { s with world := { s.world with dooms := s.world.dooms.filter fun d => !mine d } }
      come.foldl
        (fun s d =>
          match s.trap? d.signal with
          | none => s
          | some action =>
            if s.isOn then
              let t := whole depth {} action s
              { t with status := s.status }
            else s)
        s

/-- A shell as a program. -/
def shell : (depth : Nat) → (kind name : String) → List String → List (String × String) →
    State → Ended
  | 0, _, _, _, _, s => s.giveUp.ended
  | depth + 1, kind, name, args, environment, s =>
    let t := { Start.state s name environment with
      echo := if kind = "bash" then .verbatim else .escapes, line := 0 }
    let final := fun (m : Standing) (text : String) (t : State) =>
      (finish depth (whole depth m text { t with line := 1 })).ended
    match Start.read (kind = "bash") (args.length + 1) {} args with
    | .error what => (t.fail ("Illegal option " ++ what)).ended
    | .ok st =>
      let t := { t with options := st.options }
      match st.line, st.operands with
      | true, [] => (t.fail "-c requires an argument").ended
      | true, text :: rest =>
        final {} text
          { t with name := rest.head?.getD name, arguments := rest.drop 1 }
      | false, operands =>
        match if st.options.contains 's' then none else operands.head? with
        | none =>
          final {} (String.ofList (t.readable 0)) { t.drain 0 with arguments := operands }
        | some path =>
          match scriptAt t path with
          | none => (t.fail ("cannot open " ++ path ++ ": No such file")).ended
          | some (text, t) => final {} text { t with name := path, arguments := operands.drop 1 }

/-- What a program leaves that is started under a name with arguments. -/
def launch : (depth : Nat) → Installed → (name : String) → List String →
    List (String × String) → State → Ended
  | 0, _, _, _, _, s => s.giveUp.ended
  | depth + 1, p, name, args, environment, s =>
    match p with
    | .script own text =>
      let t := { Start.state s own environment with arguments := args }
      (finish depth (whole depth {} text t)).ended
    | .program p =>
      if Utility.shells.contains p then shell depth p name args environment s
      else
        let c : Utility.Call := ⟨p, args, s.readable 0, s.files, environment⟩
        let child := fun (environment : List (String × String)) (command : List String)
            (s : State) =>
          let own := command.head?.getD ""
          let dirs := match environment.lookup "PATH" with
            | some path => path.splitOn ":"
            | none => ["/bin", "/usr/bin"]
          match s.world.host.find s.files dirs own with
          | .error why =>
            endWith s (Utility.notStarted p own why) (Utility.statusNotStarted why)
          | .ok program => launch depth program own (command.drop 1) environment s
        match Utility.errand? c with
        | some (.nothing e) => settle s e
        | some (.one environment command none) => child environment command s
        | some (.one environment command (some limit)) =>
          let (id, s) := s.fresh
          cutShort s id limit (child environment command { s with job := id })
        | some (.each commands told) =>
          let t := { s with inner := true }.drain 0
          let t := t.setEnd 0 (some .null)
          let (t, ends) := commands.foldl
            (fun (acc : State × List Exit) command =>
              let (t, ends) := acc
              let t := if told then t.print 2 (" ".intercalate command ++ "\n") else t
              let e := child environment command t
              (t.after e, e.exit :: ends))
            (t, [])
          { t.ended with exit := .code (Utility.statusOf ends.reverse) }
        | none =>
          match Utility.find? s.look p with
          | some f => settle s (inNameOf p name (f c))
          | none => endWith s "" 127

/-- Carries out a program that is looked for under a name. -/
def external : (depth : Nat) → Standing → (name : String) → List String → State → State
  | 0, _, _, _, s => s.giveUp
  | depth + 1, m, name, args, s =>
    match s.world.host.find s.files s.searchDirs name, Host.checkArguments (name :: args) with
    | .error why, _ | .ok _, .error why => notRun s name why
    | .ok p, .ok () =>
      let e := launch depth p name args s.environment s
      if m.last ∧ s.traps.isEmpty then s.become e else s.after e

/-- Carries out a function. -/
def callFunction : (depth : Nat) → Standing → Script → List String → State → State
  | 0, _, _, _, s => s.giveUp
  | depth + 1, m, body, args, s =>
    if maxCalls ≤ s.locals.length then s.fail "Maximum function recursion depth (1000) reached"
    else
      let t := run depth { m with last := false } body
        { s with arguments := args, loops := 0, locals := [] :: s.locals }
      let t := restore t (t.locals.head?.getD [])
      { t with
        arguments := s.arguments, loops := s.loops, locals := s.locals
        flow := if t.flow = .returns then .on else t.flow }

/-- Carries out a command of this name with arguments; functions are left out if `plain`. -/
def perform : (depth : Nat) → Standing → (plain : Bool) → (name : String) → List String → State → State
  | 0, _, _, _, _, s => s.giveUp
  | depth + 1, m, plain, name, args, s =>
    let special := Builtin.specials.contains name
    let function? := if plain ∨ special then none else s.functions.lookup name
    match function?, Builtin.find? name with
    | some body, _ => callFunction depth m body args s
    | none, some f =>
      let t := { f { s with speaker := name } args with speaker := s.speaker }
      -- A mistake only ends the shell in a special command.
      match t.flow with
      | .exits (.code n) => if special ∧ ¬ plain then t else { t with flow := .on, status := n }
      | _ => t
    | none, none =>
    let named := { s with speaker := name }
    match name with
    | "exit" =>
      match statusOf named name args with
      | .error s => s
      | .ok n => s.exit n
    | "return" =>
      match statusOf named name args with
      | .error s => s
      | .ok n => { s with flow := .returns, status := n % 256 }
    | "break" => leaveLoops .breaks named name args
    | "continue" => leaveLoops .continues named name args
    | "eval" =>
      let t := whole depth { m with last := false } (" ".intercalate args) (Builtin.done named 0)
      { t with line := s.line }
    | "." =>
      match args with
      | [] => Builtin.mistake named "." "filename argument required"
      | path :: _ =>
        let candidates := if path.contains '/' then [path]
          else (s.searchDirs.filter (· ≠ "")).map (· ++ "/" ++ path)
        match candidates.findSome? (scriptAt s) with
        | none => Builtin.mistake named "."
            (if path.contains '/' then "cannot open " ++ path ++ ": No such file"
              else path ++ ": not found")
        | some (text, s) =>
          let t := whole depth {} text (Builtin.done { s with speaker := path } 0)
          { t with
            flow := if t.flow = .returns then .on else t.flow, line := s.line }
    | "exec" =>
      match args with
      | [] => Builtin.done s 0
      | "--" :: name :: args | name :: args =>
        match s.world.host.find s.files s.searchDirs name, Host.checkArguments (name :: args) with
        | .error why, _ | .ok _, .error why =>
          let t := notRun named name why
          t.exit t.status
        | .ok p, .ok () => s.become (launch depth p name args s.environment s)
    | "command" =>
      match args with
      | [] => Builtin.done s 0
      | "-v" :: names => describeAll s name true names
      | "-V" :: names => describeAll s name false names
      | "-p" :: name :: args | "--" :: name :: args | name :: args =>
        let t := perform depth m true name args s
        -- What ends the shell by its own right still does.
        match t.flow with
        | .exits (.code 2) =>
          if name = "exit" ∨ name = "exec" ∨ t.tail.isSome then t
          else { t with flow := .on, status := 2 }
        | _ => t
    | "type" => describeAll s name false args
    | "kill" =>
      match Builtin.readKill args with
      | .tells text => Builtin.say s name text 0
      | .wrong text status => { named.complain text with status := status }
      | .sends signal targets =>
        let (t, own) := Builtin.send named signal targets
        let s := { t with speaker := s.speaker }
        if ¬ own then s
        else match if s.inner then none else s.trap? signal with
          | some action =>
            let t := whole depth {} action s
            if t.isOn then { t with status := 0 } else t
          | none => Builtin.struck s signal
    | _ => external depth m name args s

/-- Carries out a simple command. -/
def simple : (depth : Nat) → Standing → List Word → List Redirect → State → State
  | 0, _, _, _, s => s.giveUp
  | depth + 1, m, words, redirects, s =>
    let (settings, words) := splitSettings words
    let ends := s.ends
    let (fields, s) := fieldsOf depth (declares words) words { s with taken := none }
    let (ok, s) := if s.isOn then openAll depth redirects s else (false, s)
    let name := fields.head?.getD ""
    if ¬ s.isOn then s
    else if ¬ ok then
      let s := { s with ends := ends }
      if Builtin.specials.contains name then s.exit 2 else s
    else if fields.isEmpty then
      let (settings, s) := settingsOf depth settings s
      let s := if s.isOn then { trace s settings [] with status := s.taken.getD 0 } else s
      { s with ends := ends }
    else
      let lasting := Builtin.specials.contains name
      let saved := if lasting then [] else settings.map fun p => (p.1, s.lookup? p.1)
      let (settings, s) := settingsOf depth settings s
      if ¬ s.isOn then s
      else
        let s := if lasting then s
          else settings.foldl
            (fun s p => s.put { (s.lookup? p.1).getD { name := p.1, value := none } with
              exported := true }) s
        let s := trace s settings fields
        let t := perform depth m false name (fields.drop 1) s
        let s := restore { t with speaker := s.speaker } saved
        if fields = ["exec"] ∨ fields = ["command", "exec"] then s else { s with ends := ends }

/-- Carries out a script. -/
def run : (depth : Nat) → Standing → Script → State → State
  | 0, _, _, s => s.giveUp
  | depth + 1, m, script, s =>
    if ¬ s.isOn ∨ s.options.contains 'n' then s
    else match script with
    | .nothing => s
    | .command line words redirects =>
      heed depth (checkFailure m (simple depth m words redirects { s with line := line }))
    | .pipe a b =>
      let (k, s) := s.fresh
      let side := fun (script : Script) (s : State) =>
        (finish depth (run depth { m with last := true } script s)).ended
      let left := side a (s.copy.setEnd 1 (some (.sink k)))
      let source : Source :=
        { pieces := (State.printed left.world k).map fun c => (c.time, c.text.toList)
          finish := State.closing left.world k left.time }
      let (input, t) := { s with world := left.world }.newSource source
      let right := side b (t.copy.setEnd 0 (some input))
      -- The left side ends when nobody reads what it prints.
      let late := (source.pieces.map Prod.fst).find? (right.time < ·)
      let time := if left.endless ∧ right.time < never then right.time
        else max right.time (min left.time (late.getD left.time))
      checkFailure m (s.after { right with time := time })
    | .both a b =>
      let s := run depth { tested := true } a s
      if s.isOn ∧ s.status = 0 then run depth m b s else s
    | .either a b =>
      let s := run depth { tested := true } a s
      if s.isOn ∧ s.status ≠ 0 then run depth m b s else s
    | .not a =>
      let s := run depth { tested := true } a s
      if s.isOn then { s with status := if s.status = 0 then 1 else 0 } else s
    | .sequence a .nothing => run depth m a s
    | .sequence a b => run depth m b (run depth { m with last := false } a s)
    | .background a =>
      let (id, s) := s.fresh
      let t := { s.copy with job := id }.setEnd 0 (some .null)
      let (sinks, t) : List Nat × State := match a with
        | .redirected a rs =>
          let (ok, t) := openAll depth rs t
          (t.sinks, if ok ∧ t.isOn then run depth { last := true } a t else t)
        | a => (t.sinks, run depth { last := true } a t)
      let t := finish depth t
      let e := t.ended
      let jobs : List Job := match t.tail with
        | some (time, own) =>
          [⟨id, e.time, e.exit, own⟩, ⟨id, time, e.exit, sinks⟩]
        | none => [⟨id, e.time, e.exit, sinks⟩]
      { s with
        world := { e.world with jobs := jobs ++ e.world.jobs }
        started := id :: s.started, status := 0 }
    | .branch test yes no =>
      let s := run depth { tested := true } test s
      if ¬ s.isOn then s
      else if s.status = 0 then run depth m yes s else run depth m no { s with status := 0 }
    | .loop wanted test body =>
      let loops := s.loops
      let (s, _) := rounds
        (fun (s, last) =>
          let t := run depth { tested := true } test s
          match endRound t with
          | (t', false) => ((t', last), false)
          | (t', true) =>
            if t.isOn ∧ (t.status = 0) = wanted then
              let b := run depth { m with last := false } body t
              let (b, more) := endRound b
              ((b, b.status), more)
            else if t.isOn then (({ t' with status := last }, last), false)
            else ((t', last), true))
        (fun (s, last) => (s.giveUp, last)) manyRounds ({ s with loops := loops + 1 }, 0)
      { s with loops := loops }
    | .forEach name words body =>
      let loops := s.loops
      let (values, s) : List String × State := match words with
        | none => (s.arguments, s)
        | some ws => fieldsOf depth false ws s
      if ¬ s.isOn then s
      else
        let (s, _) := values.foldl
          (fun (acc : State × Bool) value =>
            if ¬ acc.2 then acc
            else
              let s := acc.1.set name value
              if s.isOn then endRound (run depth { m with last := false } body s) else (s, false))
          ({ s with loops := loops + 1, status := 0 }, true)
        { s with loops := loops }
    | .choose subject arms =>
      let (text, s) := textOf depth subject s
      let (hit, s) := arms.foldl
        (fun (acc : Option Script × State) arm =>
          arm.1.foldl
            (fun (acc : Option Script × State) w =>
              if acc.1.isSome ∨ ¬ acc.2.isOn then acc
              else
                let (cells, s) := expand depth (homeAtFront w) acc.2
                let marked := Cell.marked cells
                let pattern := Pattern.ofChars (marked.length + 1) marked
                (if pattern.accepts text.toList then some arm.2 else none, s))
            acc)
        (none, s)
      match hit with
      | some body => run depth m body { s with status := 0 }
      | none => if s.isOn then { s with status := 0 } else s
    | .redirected a redirects =>
      let ends := s.ends
      let (ok, s) := openAll depth redirects s
      let s := if ok ∧ s.isOn then run depth { m with last := false } a s else s
      { checkFailure m s with ends := ends }
    | .subshell a =>
      let t := finish depth (run depth { m with last := true } a s.copy)
      let u := checkFailure m (s.after t.ended)
      { u with tail := if m.last ∧ s.traps.isEmpty then t.tail else u.tail }
    | .define name body =>
      { s with functions := (name, body) :: s.functions.filter (·.1 ≠ name), status := 0 }

end

/-! ## Programs from outside -/

/-- How deep a script may go. -/
def depth : Nat := 10000

/-- The directory that programs are started in. -/
def home : Path := ["root"]

/-- The programs that every system has. -/
def commonHost : Host := { programs := Utility.names }

/-- Runs a program, if it can be started, on a system with these programs. -/
def execute (host : Host) (i : Invocation) : Except StartFault Execution :=
  let args := i.args.map Text.octets
  let name := Text.octets i.program
  if i.args.any (·.contains '\x00') then .error .nulByte
  else
    let files := { Files.withCommon {} with here := home }
    match host.find files (Host.searchPath.splitOn ":") i.program,
        Host.checkArguments (name :: args) with
    | .error why, _ | .ok _, .error why => .error why
    | .ok p, .ok () =>
      let source : Source := { pieces := [(0, (Text.ofBytes (i.input.getD [])).toList)] }
      let start : State :=
        { world := { host := host, files := files, sources := [(0, source)] }
          ends := [(0, .source 0), (1, .sink 1), (2, .sink 2)]
          directory := home }
      let place := "/" ++ "/".intercalate home
      let environment := [("PATH", Host.searchPath), ("HOME", place), ("PWD", place)]
      let e := launch depth p name args environment start
      let output := String.join ((State.printed e.world 1).map Chunk.text)
      .ok { output := Text.toBytes output, exit := e.exit, exitMs := e.time
            outputMs := State.closing e.world 1 e.time }

end SessionWatch.Shell
