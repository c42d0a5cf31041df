/-
# Words and operators of a shell line

A shell line is read one character at a time into words and operators. A
character of a word is quoted or not; what stands for the value of a parameter
or for the output of another script is set apart as it is written. The lines
behind `<<` follow the line that asks for them.

Key definitions: `Shell.Piece`, `Shell.Token`, `Shell.Lexer`, `Shell.Lexer.step`,
`Shell.scan`, `Shell.tokens?`, `Shell.Word.ofText?`.
-/
import SessionWatch.Shell.Nesting

namespace SessionWatch.Shell

/-- A part of a word. -/
inductive Piece where
  | char (c : Char) (quoted : Bool)
  /-- The value of a parameter: what stands between its braces. -/
  | parameter (text : String) (quoted : Bool)
  /-- The output of a script. -/
  | output (script : String) (quoted : Bool)
  /-- Quotes with nothing between them. -/
  | nothing
  deriving DecidableEq

/-- The character that a piece stands for. -/
def Piece.char? : Piece → Option Char
  | .char c _ => some c
  | .parameter _ _ | .output _ _ | .nothing => none

/-- Nothing is to be put in the place of a piece. -/
def Piece.isFixed : Piece → Bool
  | .char _ _ | .nothing => true
  | .parameter _ _ | .output _ _ => false

abbrev Word := List Piece

/-- A part of a shell line. -/
inductive Token where
  | word (w : Word)
  | operator (name : String)
  /-- The number of a file in front of a redirection. -/
  | file (digit : Char)
  /-- The lines that `<<` asks for, which are taken as they are if they are `quoted`. -/
  | lines (text : String) (quoted : Bool)
  /-- The text ends here, within quotes or brackets. -/
  | unclosed
  deriving DecidableEq

/-- What a lexer is in the middle of. -/
inductive Mode where
  | bare
  /-- After a backslash. -/
  | escape
  /-- Between single quotes, and whether nothing stands there yet. -/
  | single (fresh : Bool)
  /-- Between double quotes, and whether nothing stands there yet. -/
  | double (fresh : Bool)
  /-- After a backslash between double quotes. -/
  | doubleEscape
  /-- After a dollar sign. -/
  | dollar (quoted : Bool)
  /-- In the name of a parameter, the latest character first. -/
  | name (quoted : Bool) (acc : List Char)
  /-- Between braces or parentheses, and what is open in them. -/
  | inner (kind : Bracket) (quoted : Bool) (opened : List Opening) (acc : List Char)
  /-- In a script between backquotes. -/
  | tick (quoted : Bool) (acc : List Char)
  /-- After a backslash between backquotes. -/
  | tickEscape (quoted : Bool) (acc : List Char)
  | comment
  /-- After the beginning of an operator. -/
  | operator (acc : List Char)
  /-- In the lines that `<<` asks for: the current one and those before, latest first. -/
  | lines (line acc : List Char)
  deriving DecidableEq

/-- Where the text that is read stands. -/
inductive Context where
  | script
  /-- Behind the name of a parameter, where blanks and operators mean nothing. -/
  | braces
  /-- In lines behind `<<`, where double quotes mean nothing. -/
  | lines
  deriving DecidableEq

/-- The end of the lines that `<<` asks for. -/
structure Delimiter where
  text : List Char
  quoted : Bool
  /-- Tabs in front of a line do not count. -/
  indented : Bool
  deriving DecidableEq

/-- What is read of a line so far. -/
structure Lexer where
  mode : Mode := .bare
  context : Context := .script
  /-- The word that is being read, the latest piece first. -/
  word : Option Word := none
  /-- The tokens so far, the latest first. -/
  done : List Token := []
  /-- The ends of the lines that are asked for. -/
  awaited : List Delimiter := []
  deriving DecidableEq

def operators : List String :=
  ["&&", "||", ";;", "<<", "<<-", ">>", "<&", ">&", "<>", ">|", "&", "|", ";", "<", ">", "(", ")"]

def isOperatorChar (c : Char) : Bool := "&|;<>()".toList.contains c

def isNameStart (c : Char) : Bool := c.isAlpha || c = '_'

def isNameChar (c : Char) : Bool := isNameStart c || c.isDigit

/-- A parameter whose name is one character and no letter. -/
def isSpecial (c : Char) : Bool := c.isDigit || "@*#?-$!".toList.contains c

/-- The end of lines that a word names. -/
def Delimiter.ofWord (indented : Bool) (w : Word) : Delimiter where
  text := w.filterMap Piece.char?
  quoted := w.any fun | .char _ q => q | .nothing => true | _ => false
  indented := indented

namespace Lexer

def push (l : Lexer) (p : Piece) : Lexer := { l with word := some (p :: l.word.getD []) }

def emit (l : Lexer) (t : Token) : Lexer := { l with done := t :: l.done }

def endWord (l : Lexer) : Lexer :=
  match l.word with
  | none => l
  | some w =>
    let w := w.reverse
    let awaited : List Delimiter :=
      match l.done with
      | .operator "<<" :: _ => l.awaited ++ [.ofWord false w]
      | .operator "<<-" :: _ => l.awaited ++ [.ofWord true w]
      | _ => l.awaited
    { l with word := none, done := .word w :: l.done, awaited := awaited }

/-- The number of a file that stands right before a redirection. -/
def endNumber (l : Lexer) (c : Char) : Lexer :=
  match l.word with
  | some [.char d false] =>
    if d.isDigit ∧ (c = '<' ∨ c = '>') then { l with word := none, done := .file d :: l.done }
    else l.endWord
  | _ => l.endWord

/-- The end of a line, which the lines that it asks for follow. -/
def endLine (l : Lexer) : Lexer :=
  let l := l.endWord.emit (.operator "\n")
  { l with mode := if l.awaited.isEmpty then .bare else .lines [] [] }

/-- A character outside of quotes. -/
def bareStep (l : Lexer) (c : Char) : Lexer :=
  if c = '\'' then { l with mode := .single true }
  else if c = '"' then { l with mode := .double true }
  else if c = '\\' then { l with mode := .escape }
  else if c = '$' then { l with mode := .dollar false }
  else if c = '\x60' then { l with mode := .tick false [] }
  else if l.context = .braces then { l.push (.char c false) with mode := .bare }
  else if c = ' ' ∨ c = '\t' then { l.endWord with mode := .bare }
  else if c = '\n' then l.endLine
  else if isOperatorChar c then { l.endNumber c with mode := .operator [c] }
  else if c = '#' ∧ l.word = none then { l with mode := .comment }
  else { l.push (.char c false) with mode := .bare }

/-- A character between double quotes. -/
def doubleStep (l : Lexer) (fresh : Bool) (c : Char) : Lexer :=
  if c = '"' ∧ l.context ≠ .lines then { if fresh then l.push .nothing else l with mode := .bare }
  else if c = '\\' then { l with mode := .doubleEscape }
  else if c = '$' then { l with mode := .dollar true }
  else if c = '\x60' then { l with mode := .tick true [] }
  else { l.push (.char c true) with mode := .double false }

/-- Outside or inside of double quotes. -/
def surrounding (quoted : Bool) : Mode := if quoted then .double false else .bare

def resume (l : Lexer) (quoted : Bool) (c : Char) : Lexer :=
  if quoted then l.doubleStep false c else l.bareStep c

/-- What is complete between brackets. -/
def close (l : Lexer) (kind : Bracket) (quoted : Bool) (acc : List Char) : Lexer :=
  let text := String.ofList acc.reverse
  let p : Piece := match kind with
    | .braces => .parameter text quoted
    | .parens => .output text quoted
  { l.push p with mode := surrounding quoted }

/-- A line is complete that the first of the awaited ends may stand on. -/
def lineStep (l : Lexer) (line acc : List Char) : Lexer :=
  match l.awaited with
  | [] => { l with mode := .bare }
  | d :: more =>
    let text := line.reverse
    let text := if d.indented then text.dropWhile (· = '\t') else text
    if text = d.text then
      { l.emit (.lines (String.ofList acc.reverse) d.quoted) with
        awaited := more, mode := if more.isEmpty then .bare else .lines [] [] }
    else { l with mode := .lines [] ('\n' :: (text.reverse ++ acc)) }

/-- Reads a character. -/
def step (l : Lexer) (c : Char) : Lexer :=
  match l.mode with
  | .bare => l.bareStep c
  | .escape =>
    if c = '\n' then { l with mode := .bare } else { l.push (.char c true) with mode := .bare }
  | .single fresh =>
    if c = '\'' then { if fresh then l.push .nothing else l with mode := .bare }
    else { l.push (.char c true) with mode := .single false }
  | .double fresh => l.doubleStep fresh c
  | .doubleEscape =>
    if c = '\n' then { l with mode := .double false }
    else if c = '$' ∨ c = '\x60' ∨ c = '\\' ∨ (c = '"' ∧ l.context ≠ .lines) then
      { l.push (.char c true) with mode := .double false }
    else { (l.push (.char '\\' true)).push (.char c true) with mode := .double false }
  | .dollar q =>
    if c = '{' then { l with mode := .inner .braces q [.braces q] [] }
    else if c = '(' then { l with mode := .inner .parens q [.script 0 [] true] [] }
    else if isNameStart c then { l with mode := .name q [c] }
    else if isSpecial c then
      { l.push (.parameter (String.singleton c) q) with mode := surrounding q }
    else (l.push (.char '$' q)).resume q c
  | .name q acc =>
    if isNameChar c then { l with mode := .name q (c :: acc) }
    else (l.push (.parameter (String.ofList acc.reverse) q)).resume q c
  | .inner kind q opened acc =>
    match Opening.step opened c with
    | [] => l.close kind q acc
    | opened => { l with mode := .inner kind q opened (c :: acc) }
  | .tick q acc =>
    if c = '\x60' then l.close .parens q acc
    else if c = '\\' then { l with mode := .tickEscape q acc }
    else { l with mode := .tick q (c :: acc) }
  | .tickEscape q acc =>
    if c = '\x60' ∨ c = '\\' ∨ c = '$' ∨ (q ∧ c = '"') then { l with mode := .tick q (c :: acc) }
    else { l with mode := .tick q (c :: '\\' :: acc) }
  | .comment => if c = '\n' then l.bareStep c else l
  | .operator acc =>
    let longer := String.ofList (c :: acc).reverse
    if operators.contains longer then
      { l with mode := .operator (c :: acc) }
    else ({ l.emit (.operator (String.ofList acc.reverse)) with mode := .bare } : Lexer).bareStep c
  | .lines line acc =>
    if c = '\n' then l.lineStep line acc else { l with mode := .lines (c :: line) acc }

/-- Reads the end of the text. -/
def finish (l : Lexer) : Lexer :=
  match l.mode with
  | .bare | .comment => l.endWord
  | .escape => (l.push (.char '\\' true)).endWord
  | .operator acc => l.emit (.operator (String.ofList acc.reverse))
  | .dollar false => (l.push (.char '$' false)).endWord
  | .name false acc => (l.push (.parameter (String.ofList acc.reverse) false)).endWord
  | .lines line acc =>
    match l.awaited with
    | [] => l
    | d :: _ =>
      let text := line.reverse
      let text := if d.indented then text.dropWhile (· = '\t') else text
      let acc := if text = d.text then acc else text.reverse ++ acc
      l.emit (.lines (String.ofList acc.reverse) d.quoted)
  | _ => l.emit .unclosed

end Lexer

/-- The word that a text stands for in a context that no blank ends. -/
def Word.ofText? (context : Context) (quoted : Bool) (text : String) : Option Word :=
  let l := text.toList.foldl Lexer.step
    { mode := Lexer.surrounding quoted, context := context }
  let l : Lexer :=
    match l.mode with
    | .double _ => { l with mode := .bare }
    | .dollar true => { l.push (.char '$' true) with mode := .bare }
    | .name true acc =>
      { l.push (.parameter (String.ofList acc.reverse) true) with mode := .bare }
    | .doubleEscape => { l.push (.char '\\' true) with mode := .bare }
    | _ => l
  match l.finish.done with
  | [] => some []
  | [.word w] => some w
  | _ => none

/-- The word that lines behind `<<` stand for. -/
def Word.ofLines (text : String) (quoted : Bool) : Option Word :=
  if quoted then some (text.toList.map fun c => .char c true) else Word.ofText? .lines true text

/-- Puts the lines that `<<` asks for in the place of the word that ends them. In the place of
the lines stand as many line feeds, and the missing lines at the end of a text are empty. -/
def attach : (awaited : List Token) → List Token → List Token
  | awaited, .operator o :: .word w :: ts =>
    if o = "<<" ∨ o = "<<-" then
      .operator "<<" :: awaited.head?.getD (.lines "" true) :: attach (awaited.drop 1) ts
    else .operator o :: .word w :: attach awaited ts
  | awaited, .lines text _ :: ts =>
    List.replicate (text.toList.count '\n' + 1) (.operator "\n") ++ attach awaited ts
  | awaited, t :: ts => t :: attach awaited ts
  | _, [] => []

/-- The tokens of a shell line; the last one may be `unclosed`. -/
def scan (cs : List Char) : List Token :=
  let ts := (cs.foldl Lexer.step {}).finish.done.reverse
  attach (ts.filter fun | .lines _ _ => true | _ => false) ts

/-- The tokens of a shell line; none if a quote or a bracket is not closed. -/
def tokens? (cs : List Char) : Option (List Token) :=
  let ts := scan cs
  if ts.contains .unclosed then none else some ts

/-- The text of a word in which nothing is to be replaced. -/
def Word.text? (w : Word) : Option String :=
  if w.all Piece.isFixed then some (String.ofList (w.filterMap Piece.char?)) else none

end SessionWatch.Shell
