/-
# Scripts of a shell

A script is a tree of commands. Words are not replaced yet: that is done when a
command is carried out. Reserved words count only where a command may begin. A
shell reads and carries out one line at a time, or as many as a command takes,
so that what stands before a mistake is still carried out.

Key definitions: `Shell.Script`, `Shell.Redirect`, `Shell.Program`,
`Shell.Program.ofText`.
-/
import SessionWatch.Shell.Token

namespace SessionWatch.Shell

/-- How a file is opened. -/
inductive Access where
  | read
  | write
  | append
  | readWrite
  deriving DecidableEq

/-- Where a file of a command comes from or goes to. -/
inductive Redirect where
  /-- The file of this number is taken from a path or goes to one. -/
  | path (file : Nat) (access : Access) (path : Word)
  /-- The file of this number is another one from now on. -/
  | duplicate (file : Nat) (other : Word)
  /-- The file of this number holds this text. -/
  | lines (file : Nat) (text : Word)

inductive Script where
  | nothing
  /-- A simple command and the line that it begins on. -/
  | command (line : Nat) (words : List Word) (redirects : List Redirect)
  | pipe (a b : Script)
  | both (a b : Script)
  | either (a b : Script)
  | not (a : Script)
  | sequence (a b : Script)
  | background (a : Script)
  | branch (test yes no : Script)
  /-- The body is repeated as long as the test succeeds, or as long as it fails. -/
  | loop (wanted : Bool) (test body : Script)
  /-- The body is carried out for each of the words, or of the arguments. -/
  | forEach (name : String) (words : Option (List Word)) (body : Script)
  | choose (subject : Word) (arms : List (List Word × Script))
  | redirected (a : Script) (redirects : List Redirect)
  | subshell (a : Script)
  | define (name : String) (body : Script)

namespace Script

/-- Words that are no commands but belong to a compound one. -/
def reservedEnds : List String := ["then", "else", "elif", "fi", "do", "done", "esac", "\x7d"]

/-- The text of a word of unquoted characters. -/
def plain? : Token → Option String
  | .word w =>
    if w.all fun | .char _ false => true | _ => false then Word.text? w else none
  | _ => none

/-- Drops one token that is this plain word. -/
def keyword? (name : String) : List Token → Option (List Token)
  | t :: ts => if plain? t = some name then some ts else none
  | [] => none

def operator? (name : String) : List Token → Option (List Token)
  | t :: ts => if t = .operator name then some ts else none
  | [] => none

def skipNewlines (ts : List Token) : List Token := ts.dropWhile (· = .operator "\n")

/-- A list of commands ends here. -/
def atEnd : List Token → Bool
  | [] => true
  | t :: _ => t = .operator ")" || t = .operator ";;"
      || (plain? t).any fun name => reservedEnds.contains name

/-- The line feeds in a token. -/
def lineFeeds : Token → Nat
  | .operator o => if o = "\n" then 1 else 0
  | .word w => (w.map fun
      | .char c _ => if c = '\n' then 1 else 0
      | .parameter s _ | .output s _ => s.toList.count '\n'
      | .nothing => 0).foldl (· + ·) 0
  | _ => 0

/-- The line feeds in tokens. -/
def height (ts : List Token) : Nat := ts.foldl (fun n t => n + lineFeeds t) 0

/-- A name of a variable. -/
def isName (s : String) : Bool :=
  match s.toList with
  | c :: cs => isNameStart c && cs.all isNameChar
  | [] => false

/-- A word that sets a variable: its name and the rest of it. -/
def assignment? (w : Word) : Option (String × Word) :=
  let name := w.takeWhile fun | .char c false => isNameChar c | _ => false
  match w.drop name.length, name with
  | .char '=' false :: value, .char c false :: _ =>
    if isNameStart c then (Word.text? name).map (·, value) else none
  | _, _ => none

/-- The redirection that begins here. -/
def redirect? (ts : List Token) : Option (Redirect × List Token) :=
  let (file, ts) : Option Nat × List Token :=
    match ts with
    | .file d :: ts => (some (d.toNat - '0'.toNat), ts)
    | ts => (none, ts)
  match ts with
  | .operator o :: .word w :: rest =>
    match o with
    | "<" => some (.path (file.getD 0) .read w, rest)
    | "<>" => some (.path (file.getD 0) .readWrite w, rest)
    | ">" | ">|" => some (.path (file.getD 1) .write w, rest)
    | ">>" => some (.path (file.getD 1) .append w, rest)
    | "<&" => some (.duplicate (file.getD 0) w, rest)
    | ">&" => some (.duplicate (file.getD 1) w, rest)
    | _ => none
  | .operator "<<" :: .lines text quoted :: rest =>
    (Word.ofLines text quoted).map fun w => (.lines (file.getD 0) w, rest)
  | _ => none

def redirects : (fuel : Nat) → List Token → List Redirect × List Token
  | 0, ts => ([], ts)
  | fuel + 1, ts =>
    match redirect? ts with
    | some (r, rest) =>
      let (rs, rest) := redirects fuel rest
      (r :: rs, rest)
    | none => ([], ts)

/-- The words and redirections of a simple command. -/
def simple : (fuel : Nat) → List Token → List Word × List Redirect × List Token
  | 0, ts => ([], [], ts)
  | fuel + 1, ts =>
    match ts with
    | .word w :: rest =>
      let (ws, rs, rest) := simple fuel rest
      (w :: ws, rs, rest)
    | ts =>
      match redirect? ts with
      | some (r, rest) =>
        let (ws, rs, rest) := simple fuel rest
        (ws, r :: rs, rest)
      | none => ([], [], ts)

/-- The words up to the end of a line. -/
def wordsOfLine : List Token → List Word × List Token
  | .word w :: rest => let (ws, rest) := wordsOfLine rest; (w :: ws, rest)
  | ts => ([], ts)

/-- The patterns of an arm, up to its bracket. -/
def patterns? : List Token → Option (List Word × List Token)
  | .word w :: .operator o :: rest =>
    if o = ")" then some ([w], rest)
    else if o = "|" then (patterns? rest).map fun (ws, rest) => (w :: ws, rest)
    else none
  | _ => none

/-- Drops what separates two parts of a compound command. -/
def skipSeparators (ts : List Token) : List Token :=
  skipNewlines ((operator? ";" ts).getD ts)

/-- The name of a function that is defined here, with its empty parentheses. -/
def definition? : List Token → Option (String × List Token)
  | t :: .operator "(" :: .operator ")" :: rest =>
    match plain? t with
    | some name => if isName name then some (name, rest) else none
    | none => none
  | _ => none

/-- A command with redirections. Those of a group that is nothing but a subshell take the place
of the subshell's own. -/
def redirectedBy (rs : List Redirect) : Script → Script
  | .sequence a .nothing =>
    match redirectedBy rs a with
    | .redirected (.subshell b) rs => .redirected (.subshell b) rs
    | _ => .redirected (.sequence a .nothing) rs
  | .redirected (.subshell b) _ => .redirected (.subshell b) rs
  | a => .redirected a rs

/-! ## Commands

Each reader gives a part of a script and the tokens behind it. The first
argument of each bounds its steps, the second is the height of the whole
text. -/

mutual

/-- A list of commands, as far as it goes. -/
def list? : (fuel height : Nat) → (empty : Bool) → List Token → Option (Script × List Token)
  | 0, _, _, _ => none
  | fuel + 1, n, empty, ts =>
    let ts := skipNewlines ts
    if empty ∧ atEnd ts then some (.nothing, ts)
    else match andOr? fuel n ts with
      | none => none
      | some (a, .operator o :: rest) =>
        if o = ";" ∨ o = "\n" then
          (list? fuel n true rest).map fun (b, rest) => (.sequence a b, rest)
        else if o = "&" then
          (list? fuel n true rest).map fun (b, rest) => (.sequence (.background a) b, rest)
        else some (a, .operator o :: rest)
      | some (a, rest) => some (a, rest)

def andOr? : (fuel height : Nat) → List Token → Option (Script × List Token)
  | 0, _, _ => none
  | fuel + 1, n, ts =>
    match pipeline? fuel n ts with
    | none => none
    | some (a, rest) => moreAndOr? fuel n a rest

/-- What follows a pipeline and depends on its status. -/
def moreAndOr? : (fuel height : Nat) → Script → List Token → Option (Script × List Token)
  | 0, _, _, _ => none
  | fuel + 1, n, a, ts =>
    match operator? "&&" ts, operator? "||" ts with
    | some rest, _ =>
      match pipeline? fuel n (skipNewlines rest) with
      | none => none
      | some (b, rest) => moreAndOr? fuel n (.both a b) rest
    | none, some rest =>
      match pipeline? fuel n (skipNewlines rest) with
      | none => none
      | some (b, rest) => moreAndOr? fuel n (.either a b) rest
    | none, none => some (a, ts)

def pipeline? : (fuel height : Nat) → List Token → Option (Script × List Token)
  | 0, _, _ => none
  | fuel + 1, n, ts =>
    match keyword? "!" ts with
    | some rest => (stages? fuel n rest).map fun (a, rest) => (.not a, rest)
    | none => stages? fuel n ts

def stages? : (fuel height : Nat) → List Token → Option (Script × List Token)
  | 0, _, _ => none
  | fuel + 1, n, ts =>
    match compound? fuel n ts with
    | none => none
    | some (a, rest) =>
      match operator? "|" rest with
      | none => some (a, rest)
      | some rest =>
        (stages? fuel n (skipNewlines rest)).map fun (b, rest) => (.pipe a b, rest)

def compound? : (fuel height : Nat) → List Token → Option (Script × List Token)
  | 0, _, _ => none
  | fuel + 1, n, ts =>
    match bare? fuel n ts with
    | none => none
    | some (.command line words rs, rest) => some (.command line words rs, rest)
    | some (.define name body, rest) => some (.define name body, rest)
    | some (a, rest) =>
      let (rs, rest) := redirects rest.length rest
      some (if rs.isEmpty then a else redirectedBy rs a, rest)

/-- A command without the redirections of a compound one. -/
def bare? : (fuel height : Nat) → List Token → Option (Script × List Token)
  | 0, _, _ => none
  | fuel + 1, n, ts =>
    match operator? "(" ts, definition? ts with
    | some rest, _ =>
      match list? fuel n false rest with
      | none => none
      | some (a, rest) => (operator? ")" (skipNewlines rest)).map fun rest => (.subshell a, rest)
    | none, some (name, rest) =>
      (compound? fuel n (skipNewlines rest)).map fun (body, rest) => (.define name body, rest)
    | none, none =>
    match ts.head?.bind plain?, ts.drop 1 with
    | some "\x7b", rest =>
      match list? fuel n false rest with
      | none => none
      | some (a, rest) => (keyword? "\x7d" rest).map fun rest => (.sequence a .nothing, rest)
    | some "if", rest => branch? fuel n rest
    | some "while", rest => loop? fuel n true rest
    | some "until", rest => loop? fuel n false rest
    | some "for", rest =>
      match rest.head?.bind plain? with
      | none => none
      | some name =>
        if ¬ isName name then none else
        let rest := skipNewlines (rest.drop 1)
        let (words, rest) : Option (List Word) × List Token :=
          match keyword? "in" rest with
          | none => (none, rest)
          | some rest => let (ws, rest) := wordsOfLine rest; (some ws, rest)
        match keyword? "do" (skipSeparators rest) with
        | none => none
        | some rest =>
          match list? fuel n false rest with
          | none => none
          | some (body, rest) =>
            (keyword? "done" rest).map fun rest => (.forEach name words body, rest)
    | some "case", .word subject :: rest =>
      match keyword? "in" (skipNewlines rest) with
      | none => none
      | some rest => (arms? fuel n rest).map fun (arms, rest) => (.choose subject arms, rest)
    | name, _ =>
      if name.any fun name => reservedEnds.contains name || name = "case" then none
      else
        let (words, rs, rest) := simple ts.length ts
        if words.isEmpty ∧ rs.isEmpty then none
        else some (.command (n - height ts + 1) words rs, rest)

def branch? : (fuel height : Nat) → List Token → Option (Script × List Token)
  | 0, _, _ => none
  | fuel + 1, n, ts =>
    match list? fuel n false ts with
    | none => none
    | some (test, rest) =>
      match keyword? "then" rest with
      | none => none
      | some rest =>
        match list? fuel n false rest with
        | none => none
        | some (yes, rest) =>
          match keyword? "fi" rest, keyword? "elif" rest, keyword? "else" rest with
          | some rest, _, _ => some (.branch test yes .nothing, rest)
          | none, some rest, _ =>
            (branch? fuel n rest).map fun (no, rest) => (.branch test yes no, rest)
          | none, none, some rest =>
            match list? fuel n false rest with
            | none => none
            | some (no, rest) => (keyword? "fi" rest).map fun rest => (.branch test yes no, rest)
          | none, none, none => none

def loop? : (fuel height : Nat) → Bool → List Token → Option (Script × List Token)
  | 0, _, _, _ => none
  | fuel + 1, n, wanted, ts =>
    match list? fuel n false ts with
    | none => none
    | some (test, rest) =>
      match keyword? "do" rest with
      | none => none
      | some rest =>
        match list? fuel n false rest with
        | none => none
        | some (body, rest) =>
          (keyword? "done" rest).map fun rest => (.loop wanted test body, rest)

def arms? : (fuel height : Nat) → List Token → Option (List (List Word × Script) × List Token)
  | 0, _, _ => none
  | fuel + 1, n, ts =>
    let ts := skipNewlines ts
    match keyword? "esac" ts with
    | some rest => some ([], rest)
    | none =>
      match patterns? ((operator? "(" ts).getD ts) with
      | none => none
      | some (ps, rest) =>
        match list? fuel n true rest with
        | none => none
        | some (body, rest) =>
          match operator? ";;" (skipNewlines rest) with
          | some rest => (arms? fuel n rest).map fun (arms, rest) => ((ps, body) :: arms, rest)
          | none => (keyword? "esac" rest).map fun rest => ([(ps, body)], rest)

end

/-- The commands of one line. -/
def line? : (fuel height : Nat) → List Token → Option (Script × List Token)
  | 0, _, _ => none
  | fuel + 1, n, ts =>
    match andOr? fuel n ts with
    | none => none
    | some (a, []) => some (a, [])
    | some (a, .operator o :: rest) =>
      let more := fun (a : Script) =>
        if rest.isEmpty ∨ rest.head? = some (.operator "\n") then some (a, rest)
        else (line? fuel n rest).map fun (b, rest) => (.sequence a b, rest)
      match o with
      | "\n" => some (a, rest)
      | ";" => more a
      | "&" => more (.background a)
      | _ => none
    | some _ => none

end Script

/-- What a text says: commands line by line, and whether that is all. -/
structure Program where
  lines : List Script
  sound : Bool

namespace Program

/-- The program that tokens write. -/
def ofTokens (height steps : Nat) : (fuel : Nat) → List Token → Program
  | 0, _ => ⟨[], false⟩
  | fuel + 1, ts =>
    match Script.skipNewlines ts with
    | [] => ⟨[], true⟩
    | ts =>
      match Script.line? steps height ts with
      | none => ⟨[], false⟩
      | some (a, rest) =>
        let p := ofTokens height steps fuel rest
        ⟨a :: p.lines, p.sound⟩

/-- The program that a text writes. -/
def ofText (s : String) : Program :=
  let ts := scan s.toList
  ofTokens (Script.height ts) (10 * ts.length + 10) (ts.length + 1) ts

end Program

end SessionWatch.Shell
