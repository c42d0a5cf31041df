/-
# Editing lines

An editor reads a text line by line and carries out its commands on each: a
command may be limited to some lines, may replace what an expression finds, and
may go on elsewhere. What is then left of the line is printed.

Key definitions: `Utility.Edit.Command`, `Utility.Edit.readScript?`,
`Utility.Edit.State`, `Utility.sed`.
-/
import SessionWatch.Text.Regex
import SessionWatch.Utility.Basic

namespace SessionWatch.Utility

namespace Edit

/-- Lines that a command is meant for. -/
inductive Address where
  | line (n : Nat)
  | last
  /-- Lines with a match; none stands for the last expression used. -/
  | found (folded : Bool) (r : Option Text.Regex)
  | every (first step : Nat)

/-- The end of a range of lines. -/
inductive Until where
  | address (a : Address)
  /-- So many lines further. -/
  | further (n : Nat)

/-- A part of what is put in the place of a match. -/
inductive Part where
  | char (c : Char)
  | group (n : Nat)
  /-- Letters become large or small from here on, or stay as they are. -/
  | letters (f : Option Bool)
  /-- The next letter becomes large or small. -/
  | letter (large : Bool)

inductive Action where
  /-- A block, up to the command of this number. -/
  | block (finish : Nat)
  | mark (name : List Char)
  | branch (name : List Char)
  /-- Goes on elsewhere if something was replaced, or if nothing was. -/
  | branchIf (replaced : Bool) (name : List Char)
  | substitute (folded : Bool) (r : Option Text.Regex) (parts : List Part) (all : Bool)
      (number : Nat) (print : Bool)
  | exchangeChars (pairs : List (Char × Char))
  | delete | deleteFirst | print | printFirst | next | nextAppend
  | quit (code : Nat) (silent : Bool)
  | append (text : List Char) | insert (text : List Char) | change (text : List Char)
  | hold | holdAppend | get | getAppend | exchange | number | clear
  /-- Prints the line with everything in it visible. -/
  | show
  /-- Writes the line to a file. -/
  | write (path : List Char)

structure Command where
  first : Option Address := none
  second : Option Until := none
  negated : Bool := false
  action : Action

/-! ## Reading -/

/-- A text up to a delimiter, which may be escaped within it; brackets protect it. -/
def readUpTo? (d : Char) : (fuel : Nat) → (acc : List Char) → (inSet : Bool) → List Char →
    Option (List Char × List Char)
  | 0, _, _, _ | _, _, _, [] => none
  | fuel + 1, acc, inSet, '\\' :: c :: cs =>
    if inSet then readUpTo? d fuel ('\\' :: acc) inSet (c :: cs)
    else if c = d ∧ d ≠ '\\' then readUpTo? d fuel (c :: acc) inSet cs
    else readUpTo? d fuel (c :: '\\' :: acc) inSet cs
  | fuel + 1, acc, inSet, c :: cs =>
    if c = d ∧ ¬ inSet then some (acc.reverse, cs)
    else
      let opens := c = '[' && !inSet
      let closes := c = ']' && inSet && acc.head? ≠ some '[' && acc.take 2 ≠ ['^', '[']
      readUpTo? d fuel (c :: acc) ((inSet && !closes) || opens) cs

/-- A replacement; an escaped delimiter stands for itself. -/
def readParts (d : Char) : (fuel : Nat) → (acc : List Part) → List Char →
    Option (List Part × List Char)
  | 0, _, _ | _, _, [] => none
  | fuel + 1, acc, '\\' :: c :: cs =>
    let part : Part :=
      if c.isDigit then .group (c.toNat - '0'.toNat)
      else match c with
        | 'n' => .char '\n'
        | 't' => .char '\t'
        | 'U' => .letters (some true)
        | 'L' => .letters (some false)
        | 'E' => .letters none
        | 'u' => .letter true
        | 'l' => .letter false
        | c => .char c
    readParts d fuel (part :: acc) cs
  | fuel + 1, acc, c :: cs =>
    if c = d then some (acc.reverse, cs)
    else readParts d fuel ((if c = '&' then .group 0 else .char c) :: acc) cs

def skipBlanks (cs : List Char) : List Char := cs.dropWhile fun c => c = ' ' || c = '\t'

def skipSeparators (cs : List Char) : List Char :=
  cs.dropWhile fun c => c = ' ' || c = '\t' || c = '\n' || c = ';'

/-- An expression; an empty one stands for the last one used. -/
def readExpression? (extended : Bool) (cs : List Char) : Option (Option Text.Regex) :=
  if cs.isEmpty then some none else (Text.Regex.parse? extended cs).map some

def readNumber (cs : List Char) : Nat × List Char :=
  let ds := cs.takeWhile Char.isDigit
  (digitsValue ds, cs.drop ds.length)

/-- An address, if one begins here. The outer result is none if it is malformed. -/
def readAddress? (extended : Bool) (cs : List Char) : Option (Option Address × List Char) :=
  let expression := fun (d : Char) (cs : List Char) =>
    match readUpTo? d (cs.length + 1) [] false cs with
    | none => none
    | some (text, rest) =>
      let (folded, rest) : Bool × List Char := match rest with
        | 'I' :: rest => (true, rest)
        | rest => (false, rest)
      (readExpression? extended text).map fun r => (some (Address.found folded r), rest)
  match cs with
  | '$' :: rest => some (some .last, rest)
  | '/' :: rest => expression '/' rest
  | '\\' :: d :: rest => expression d rest
  | c :: _ =>
    if c.isDigit then
      let (n, rest) := readNumber cs
      match rest with
      | '~' :: rest =>
        let (step, rest) := readNumber rest
        some (some (.every n step), rest)
      | rest => some (some (.line n), rest)
    else some (none, cs)
  | [] => some (none, [])

/-- The text of `a`, `i` and `c`: the rest of the line, or the lines behind a backslash. -/
def readText (cs : List Char) : List Char × List Char :=
  let cs := skipBlanks cs
  let cs := match cs with
    | '\\' :: '\n' :: rest => rest
    | '\\' :: rest => rest
    | cs => cs
  let rec go : List Char → List Char → List Char × List Char
    | acc, '\\' :: c :: rest => go (c :: acc) rest
    | acc, '\n' :: rest => (acc.reverse, rest)
    | acc, c :: rest => go (c :: acc) rest
    | acc, [] => (acc.reverse, [])
  go [] cs

/-- The flags of a replacement: all matches, which one, printing, letters of either case. -/
structure Flags where
  all : Bool := false
  number : Nat := 1
  print : Bool := false
  folded : Bool := false

def readFlags : (fuel : Nat) → Flags → List Char → Flags × List Char
  | 0, f, cs => (f, cs)
  | fuel + 1, f, cs =>
    match cs with
    | 'g' :: cs => readFlags fuel { f with all := true } cs
    | 'p' :: cs => readFlags fuel { f with print := true } cs
    | 'i' :: cs | 'I' :: cs => readFlags fuel { f with folded := true } cs
    | c :: _ =>
      if c.isDigit then
        let (n, rest) := readNumber cs
        readFlags fuel { f with number := n } rest
      else (f, cs)
    | [] => (f, [])

/-- The command behind the addresses. -/
def readAction? (extended : Bool) (cs : List Char) : Option (Action × List Char) :=
  match cs with
  | [] => none
  | c :: cs =>
    let name := fun (k : List Char → Action) =>
      let cs := skipBlanks cs
      let label := cs.takeWhile fun c => c ≠ '\n' && c ≠ ';' && c ≠ '}'
      some (k (label.reverse.dropWhile (· = ' ')).reverse, cs.drop label.length)
    match c with
    | '{' => some (.block 0, cs)
    | ':' => name .mark
    | 'b' => name .branch
    | 't' => name (.branchIf true)
    | 'T' => name (.branchIf false)
    | 'd' => some (.delete, cs)
    | 'D' => some (.deleteFirst, cs)
    | 'p' => some (.print, cs)
    | 'P' => some (.printFirst, cs)
    | 'n' => some (.next, cs)
    | 'N' => some (.nextAppend, cs)
    | 'h' => some (.hold, cs)
    | 'H' => some (.holdAppend, cs)
    | 'g' => some (.get, cs)
    | 'G' => some (.getAppend, cs)
    | 'x' => some (.exchange, cs)
    | '=' => some (.number, cs)
    | 'z' => some (.clear, cs)
    | 'l' => some (.show, cs)
    | 'w' =>
      let path := (skipBlanks cs).takeWhile (· ≠ '\n')
      some (.write path, (skipBlanks cs).drop path.length)
    | 'q' =>
      let (n, rest) := readNumber (skipBlanks cs)
      some (.quit n false, rest)
    | 'Q' =>
      let (n, rest) := readNumber (skipBlanks cs)
      some (.quit n true, rest)
    | 'a' => let (t, rest) := readText cs; some (.append t, rest)
    | 'i' => let (t, rest) := readText cs; some (.insert t, rest)
    | 'c' => let (t, rest) := readText cs; some (.change t, rest)
    | 's' =>
      match cs with
      | [] => none
      | d :: cs =>
        match readUpTo? d (cs.length + 1) [] false cs with
        | none => none
        | some (text, cs) =>
          match readParts d (cs.length + 1) [] cs, readExpression? extended text with
          | some (parts, cs), some r =>
            let (f, cs) := readFlags (cs.length + 1) {} cs
            some (.substitute f.folded r parts f.all f.number f.print, cs)
          | _, _ => none
    | 'y' =>
      match cs with
      | [] => none
      | d :: cs =>
        match readParts d (cs.length + 1) [] cs with
        | none => none
        | some (a, cs) =>
          match readParts d (cs.length + 1) [] cs with
          | none => none
          | some (b, cs) =>
            let chars := fun ps : List Part => ps.map fun
              | .char c => c
              | _ => '&'
            if a.length = b.length then some (.exchangeChars ((chars a).zip (chars b)), cs)
            else none
    | _ => none

/-- The commands of a script. -/
def readCommands? (extended : Bool) : (fuel : Nat) → (acc : List Command) →
    (opened : List Nat) → List Char → Option (List Command)
  | 0, _, _, _ => none
  | fuel + 1, acc, opened, cs =>
    match skipSeparators cs with
    | [] => if opened.isEmpty then some acc.reverse else none
    | '#' :: cs => readCommands? extended fuel acc opened (cs.dropWhile (· ≠ '\n'))
    | '}' :: cs =>
      match opened with
      | [] => none
      | k :: opened =>
        let place := acc.length - 1 - k
        let acc := acc.mapIdx fun i c =>
          if i = place then { c with action := .block acc.length } else c
        readCommands? extended fuel acc opened cs
    | cs =>
      match readAddress? extended cs with
      | none => none
      | some (first, cs) =>
        let second : Option (Option Until × List Char) := match first, skipBlanks cs with
          | some _, ',' :: cs =>
            match skipBlanks cs with
            | '+' :: cs => let (n, cs) := readNumber cs; some (some (.further n), cs)
            | cs => match readAddress? extended cs with
              | some (some a, cs) => some (some (.address a), cs)
              | _ => none
          | _, cs => some (none, cs)
        match second with
        | none => none
        | some (second, cs) =>
          let (negated, cs) : Bool × List Char := match skipBlanks cs with
            | '!' :: cs => (true, skipBlanks cs)
            | cs => (false, cs)
          match readAction? extended cs with
          | none => none
          | some (action, cs) =>
            let opened := match action with
              | .block _ => acc.length :: opened
              | _ => opened
            let ended := match action, skipBlanks cs with
              | .block _, _ | .append _, _ | .insert _, _ | .change _, _ => true
              | _, [] => true
              | _, c :: _ => c = ';' || c = '\n' || c = '}' || c = '#'
            if ended then
              readCommands? extended fuel (⟨first, second, negated, action⟩ :: acc) opened cs
            else none

/-- The commands that a script writes. -/
def readScript? (extended : Bool) (s : String) : Option (List Command) :=
  readCommands? extended (2 * s.length + 2) [] [] s.toList

/-! ## Carrying out -/

/-- Where an editor stands. -/
structure State where
  line : List Char := []
  held : List Char := []
  number : Nat := 0
  /-- The lines to come. -/
  coming : List (List Char)
  /-- The last line has no end. -/
  ragged : Bool := false
  /-- The commands whose range of lines has begun, with the line that it goes up to, if known. -/
  ranges : List (Nat × Option Nat) := []
  expression : Option Text.Regex := none
  replaced : Bool := false
  /-- Texts to be printed behind the line. -/
  behind : List (List Char) := []
  /-- The lines printed so far, latest first, each with whether it has an end. -/
  out : List (List Char × Bool) := []
  /-- The editor has stopped with this status. -/
  stopped : Option Nat := none
  /-- Its commands are never done. -/
  endless : Bool := false
  /-- The line is not printed at the end. -/
  dropped : Bool := false
  /-- The commands begin again without a new line. -/
  again : Bool := false

/-- Prints a line of its own. -/
def State.say (s : State) (line : List Char) : State := { s with out := (line, true) :: s.out }

/-- Prints what is left of a line, which has no end if the line has none. -/
def State.emit (s : State) (line : List Char) : State :=
  { s with out := (line, !(s.ragged && s.coming.isEmpty)) :: s.out }

/-- What was printed: a line without an end gets one if another one follows. -/
def State.printed (s : State) (separator : Char) : List Char :=
  match s.out with
  | [] => []
  | (line, closed) :: before =>
    before.reverse.flatMap (fun p => p.1 ++ [separator]) ++ line
      ++ if closed then [separator] else []

/-- A character as it is shown where everything is to be visible. -/
def visible (c : Char) : List Char :=
  match c with
  | '\\' => ['\\', '\\']
  | '\n' => ['\\', 'n']
  | '\t' => ['\\', 't']
  | '\r' => ['\\', 'r']
  | '\x07' => ['\\', 'a']
  | '\x08' => ['\\', 'b']
  | '\x0c' => ['\\', 'f']
  | '\x0b' => ['\\', 'v']
  | c =>
    if 0x20 ≤ c.toNat ∧ c.toNat < 0x7F then [c]
    else '\\' :: (padLeft 3 '0' (String.ofList (Nat.toDigits 8 c.toNat))).toList

/-- A line shown with everything visible: it is cut before it gets longer than 69 characters. -/
def showLine (cs : List Char) : List Char :=
  let (out, _) := (cs.map visible).foldl
    (fun (acc : List (List Char) × Nat) shown =>
      if 69 < acc.2 + shown.length then (shown :: ['\\', '\n'] :: acc.1, shown.length)
      else (shown :: acc.1, acc.2 + shown.length))
    ([], 0)
  out.reverse.flatten ++ ['$']

/-- An address meets the line; the expression used is remembered. -/
def Address.meets (a : Address) (s : State) : Bool × State :=
  match a with
  | .line n => (s.number = n, s)
  | .last => (s.coming.isEmpty, s)
  | .every first step =>
    (if step = 0 then s.number = first
      else first ≤ s.number && (s.number - first) % step = 0, s)
  | .found folded r =>
    match r.or s.expression with
    | none => (false, s)
    | some r => ((r.find? folded s.line).isSome, { s with expression := some r })

/-- A command of this number is meant for the line. -/
def Command.meant (c : Command) (k : Nat) (s : State) : Bool × State :=
  let close := fun s : State => { s with ranges := s.ranges.filter (·.1 ≠ k) }
  let (hit, s) : Bool × State := match c.first, c.second with
    | none, _ => (true, s)
    | some a, none => a.meets s
    | some a, some e =>
      match s.ranges.lookup k with
      | some upTo =>
        match upTo, e with
        | some n, _ =>
          if n ≤ s.number then (s.number = n || n = 0, close s) else (true, s)
        | none, .address b =>
          let (done, s) := b.meets s
          (true, if done then close s else s)
        | none, .further _ => (true, close s)
      | none =>
        let (begins, s) : Bool × State := match a with
          | .line 0 => (s.number = 1, s)
          | a => a.meets s
        if ¬ begins then (false, s)
        else
          let opened := fun upTo : Option Nat => { s with ranges := (k, upTo) :: s.ranges }
          match e with
          | .further n => (true, if n = 0 then s else opened (some (s.number + n)))
          | .address (.line n) => (true, if n ≤ s.number then s else opened (some n))
          | .address .last => (true, if s.coming.isEmpty then s else opened none)
          | .address b =>
            match a with
            | .line 0 =>
              let (done, s) := b.meets s
              (true, if done then s else { s with ranges := (k, none) :: s.ranges })
            | _ => (true, opened none)
  (hit != c.negated, s)

/-- What stands in the place of a match. -/
def fill (m : Text.Regex.Match) (parts : List Part) : List Char :=
  let put := fun (mode : Option Bool) (once : Option Bool) (cs : List Char) =>
    let cs := match mode with
      | some true => cs.map Char.toUpper
      | some false => cs.map Char.toLower
      | none => cs
    match once, cs with
    | some large, c :: cs => (if large then c.toUpper else c.toLower) :: cs
    | _, cs => cs
  (parts.foldl
    (fun (acc : List (List Char) × Option Bool × Option Bool) part =>
      let (out, mode, once) := acc
      let add := fun cs : List Char =>
        (put mode once cs :: out, mode, if cs.isEmpty then once else none)
      match part with
      | .char c => add [c]
      | .group 0 => add m.text
      | .group n => add ((m.groups.lookup n).getD [])
      | .letters f => (out, f, none)
      | .letter large => (out, mode, some large))
    ([], none, none)).1.reverse.flatten

/-- A line with matches replaced, from number `k` on, and whether there were any. -/
def substitute (folded : Bool) (r : Text.Regex) (parts : List Part) (all : Bool) (k : Nat)
    (line : List Char) : List Char × Bool :=
  let found := (r.findAll folded line).zipIdx 1
  let chosen := fun n : Nat => if all then max k 1 ≤ n else n = max k 1
  let out := found.map fun ((front, g), n) => front ++ if chosen n then fill g parts else g.text
  let rest := match found.getLast? with
    | some ((_, g), _) => g.rest
    | none => line
  (out.flatten ++ rest, found.any fun p => chosen p.2)

/-- Takes the next line. -/
def State.advance (s : State) : Option State :=
  match s.coming with
  | [] => none
  | line :: coming =>
    some { s with line := line, coming := coming, number := s.number + 1 }

/-- Prints the texts that were put behind the line. -/
def State.flush (s : State) : State :=
  { s with out := s.behind.reverse.foldl (fun out t => (t, true) :: out) s.out, behind := [] }

/-- The place of a mark, or the end. -/
def target (cs : List Command) (name : List Char) : Nat :=
  if name.isEmpty then cs.length
  else (cs.findIdx? fun c => match c.action with
    | .mark n => n = name
    | _ => false).getD cs.length

/-- Carries out the commands from number `k` on. Commands that are not done after many steps never
are. -/
def carryOut (quiet : Bool) (cs : List Command) : (fuel : Nat) → (k : Nat) → State → State
  | 0, _, s => { s with endless := true, stopped := some 0, dropped := true }
  | fuel + 1, k, s =>
    match cs[k]? with
    | none => s
    | some c =>
      let (meant, s) := c.meant k s
      let go := carryOut quiet cs fuel
      let printed := fun s : State => if quiet then s else s.emit s.line
      if ¬ meant then
        match c.action with
        | .block finish => go finish s
        | _ => go (k + 1) s
      else match c.action with
        | .block _ | .mark _ => go (k + 1) s
        | .branch name => go (target cs name) s
        | .branchIf wanted name =>
          if s.replaced = wanted then go (target cs name) { s with replaced := false }
          else go (k + 1) { s with replaced := false }
        | .substitute folded r parts all number print =>
          match r.or s.expression with
          | none => go (k + 1) s
          | some r =>
            let (line, hit) := substitute folded r parts all number s.line
            let s := { s with line := line, expression := some r, replaced := s.replaced || hit }
            go (k + 1) (if print ∧ hit then s.emit s.line else s)
        | .exchangeChars pairs =>
          go (k + 1) { s with line := s.line.map fun c => (pairs.lookup c).getD c }
        | .delete => { s with dropped := true }
        | .deleteFirst =>
          if s.line.contains '\n' then
            { s with line := (s.line.dropWhile (· ≠ '\n')).drop 1, dropped := true, again := true }
          else { s with dropped := true }
        | .print => go (k + 1) (s.emit s.line)
        | .printFirst =>
          go (k + 1) (if s.line.contains '\n' then s.say (s.line.takeWhile (· ≠ '\n'))
            else s.emit s.line)
        | .next =>
          match s.advance with
          | none => { (if quiet then s else printed s) with stopped := some 0, dropped := true }
          | some t => go (k + 1) { t with out := (printed s).flush.out, behind := [] }
        | .nextAppend =>
          match s.advance with
          | none => { printed s with stopped := some 0, dropped := true }
          | some t =>
            let s := s.flush
            go (k + 1) { t with line := s.line ++ '\n' :: t.line, out := s.out, behind := [] }
        | .quit code silent =>
          { (if silent then s else printed s) with stopped := some code, dropped := true }
        | .append text => go (k + 1) { s with behind := text :: s.behind }
        | .insert text => go (k + 1) (s.say text)
        | .change text =>
          let inRange := (s.ranges.lookup k).isSome
          { (if inRange ∧ ¬ c.negated then s else s.say text) with dropped := true }
        | .hold => go (k + 1) { s with held := s.line }
        | .holdAppend => go (k + 1) { s with held := s.held ++ '\n' :: s.line }
        | .get => go (k + 1) { s with line := s.held }
        | .getAppend => go (k + 1) { s with line := s.line ++ '\n' :: s.held }
        | .exchange => go (k + 1) { s with line := s.held, held := s.line }
        | .number => go (k + 1) (s.say (toString s.number).toList)
        | .show => go (k + 1) (s.say (showLine s.line))
        | .write path =>
          go (k + 1) (if String.ofList path = "/dev/stdout" then s.emit s.line else s)
        | .clear => go (k + 1) { s with line := [] }

/-- How many commands may be carried out for one line. -/
def manySteps : Nat := 1000000

/-- Carries out the commands on line after line. -/
def overLines (quiet : Bool) (cs : List Command) : (fuel : Nat) → State → State
  | 0, s => s
  | fuel + 1, s =>
    let start := if s.again then some { s with again := false } else s.advance
    match start with
    | none => s
    | some s =>
      let s := carryOut quiet cs manySteps 0 { s with dropped := false, replaced := false }
      let s := if s.dropped ∨ quiet then s else s.emit s.line
      let s := s.flush
      if s.stopped.isSome then s else overLines quiet cs fuel s

end Edit

/-- Carries out a script on a text. -/
def Edit.onText (quiet : Bool) (separator : Char) (commands : List Edit.Command)
    (cs : List Char) : Edit.State :=
  let lines := split separator cs
  let ragged := lines.getLast? ≠ some []
  let lines := if ragged then lines else lines.dropLast
  Edit.overLines quiet commands (4 * lines.length + 4) { coming := lines, ragged := ragged }

/-- Edits the input or files. -/
def sed (c : Call) : Effect :=
  match c.options { flags := "nErsuzi", valued := "e", long := [("quiet", 'n'), ("silent", 'n'),
      ("regexp-extended", 'E'), ("expression", 'e'), ("null-data", 'z'), ("separate", 's'),
      ("in-place", 'i'), ("unbuffered", 'u')] } true with
  | .error why => c.misused why 1
  | .ok o =>
    let given := (o.given.filter (·.1 = 'e')).map Prod.snd
    let (scripts, operands) := if given.isEmpty then (o.operands.take 1, o.operands.drop 1)
      else (given, o.operands)
    match scripts, Edit.readScript? (o.has 'E' || o.has 'r') ("\n".intercalate scripts) with
    | [], _ => c.fails "no script specified" 1
    | _, none => c.fails "-e expression #1: unknown command" 1
    | _, some commands =>
      let (contents, errors) := c.contents operands
      let separator := if o.has 'z' then '\x00' else '\n'
      let edit := Edit.onText (o.has 'n') separator commands
      let status := fun (stopped : Option Nat) =>
        stopped.getD 0 + (if errors = "" then 0 else 2)
      if o.has 'i' then
        let files := contents.foldl
          (fun (fs : Files) p => match fs.lookup p.1 with
            | .ok (path, .file _) =>
              fs.put path (Text.toBytes (String.ofList ((edit p.2).printed separator)))
            | _ => fs)
          c.files
        { errors := errors, rest := some c.input, status := status none, files := some files }
      else if o.has 's' then
        let states := contents.map fun p => edit p.2
        { output := String.ofList (states.flatMap (·.printed separator)), errors := errors
          rest := c.after operands, status := status none }
      else
        let s := edit (contents.flatMap (·.2))
        let e : Effect :=
          { output := String.ofList (s.printed separator), errors := errors
            rest := if s.stopped.isSome ∧ operands.isEmpty then
                some (s.coming.flatMap (· ++ [separator]))
              else c.after operands
            block := 4096
            status := status s.stopped }
        if s.endless then e.unending else e

end SessionWatch.Utility
