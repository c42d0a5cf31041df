/-
# Brackets inside of brackets

A script between parentheses, or a parameter between braces, is set apart as a
whole. To find its end, what is open is followed character by character: quotes,
further brackets, comments, and the patterns of a choice, whose parentheses
close nothing.

Key definitions: `Shell.Bracket`, `Shell.Opening`, `Shell.Opening.step`.
-/

namespace SessionWatch.Shell

/-- The brackets behind a dollar sign. -/
inductive Bracket where
  | braces
  | parens
  deriving DecidableEq

/-- Something that is open. -/
inductive Opening where
  /-- A script, of which `cases` choices are open; `word` is being read, the latest character
  first, and `first` says whether a command may begin with it. -/
  | script (cases : Nat) (word : List Char) (first : Bool)
  /-- Braces, outside or inside of double quotes. -/
  | braces (quoted : Bool)
  | single
  | double
  | tick
  | comment
  /-- A backslash, or a dollar sign, before the next character. -/
  | escape
  | dollar
  deriving DecidableEq

namespace Opening

/-- Words behind which a command may begin. -/
def introducers : List String := ["then", "do", "else", "elif", "if", "while", "until", "!", "\x7b"]

/-- The end of a word in a script. -/
def endWord (cases : Nat) (word : List Char) (first : Bool) : Opening :=
  let text := String.ofList word.reverse
  if word.isEmpty then .script cases [] first
  else if first ∧ text = "case" then .script (cases + 1) [] false
  else if first ∧ text = "esac" then .script (cases - 1) [] false
  else .script cases [] (first && introducers.contains text)

/-- A separator after which a command may begin. -/
def endCommand (cases : Nat) (word : List Char) (first : Bool) : Opening :=
  match endWord cases word first with
  | .script cases _ _ => .script cases [] true
  | o => o

/-- Reads a character in a script, between braces or between double quotes. -/
def plainStep (opened : List Opening) (c : Char) : List Opening :=
  match opened with
  | .script cases word first :: rest =>
    if c = '\\' then .escape :: .script cases (c :: word) first :: rest
    else if c = '\'' then .single :: .script cases (c :: word) first :: rest
    else if c = '"' then .double :: .script cases (c :: word) first :: rest
    else if c = '\x60' then .tick :: .script cases (c :: word) first :: rest
    else if c = '$' then .dollar :: .script cases (c :: word) first :: rest
    else if c = '#' ∧ word.isEmpty then .comment :: opened
    else if c = '(' then .script 0 [] true :: endCommand cases word first :: rest
    else if c = ')' then
      match endCommand cases word first with
      | .script 0 _ _ => rest
      | o => o :: rest
    else if c = ' ' ∨ c = '\t' then endWord cases word first :: rest
    else if c = '\n' ∨ c = ';' ∨ c = '&' ∨ c = '|' then endCommand cases word first :: rest
    else .script cases (c :: word) first :: rest
  | .braces quoted :: rest =>
    if c = '}' then rest
    else if c = '\\' then .escape :: opened
    else if c = '\'' ∧ ¬ quoted then .single :: opened
    else if c = '"' then .double :: opened
    else if c = '\x60' then .tick :: opened
    else if c = '$' then .dollar :: opened
    else opened
  | .double :: rest =>
    if c = '"' then rest
    else if c = '\\' then .escape :: opened
    else if c = '\x60' then .tick :: opened
    else if c = '$' then .dollar :: opened
    else opened
  | opened => opened

/-- Whether brackets that open here stand between double quotes. -/
def isQuoted : List Opening → Bool
  | .double :: _ => true
  | .braces quoted :: _ => quoted
  | _ => false

/-- Reads a character. All is closed when nothing is left open. -/
def step (opened : List Opening) (c : Char) : List Opening :=
  match opened with
  | .escape :: rest => rest
  | .single :: rest => if c = '\'' then rest else opened
  | .tick :: rest =>
    if c = '\x60' then rest else if c = '\\' then .escape :: opened else opened
  | .comment :: rest => if c = '\n' then plainStep rest c else opened
  | .dollar :: rest =>
    if c = '(' then .script 0 [] true :: rest
    else if c = '{' then .braces (isQuoted rest) :: rest
    else plainStep rest c
  | opened => plainStep opened c

end Opening

end SessionWatch.Shell
