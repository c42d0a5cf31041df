/-
# Quoting for a shell

Between single quotes a shell takes every character for itself, except the
single quote, which ends them. A quote in a word is therefore written outside:
the quotes are closed, the quote is escaped, and they are opened again.

Key definitions: `Shell.quoteChars`, `Shell.quote`.
-/

namespace SessionWatch.Shell

/-- What stands for a character between single quotes. -/
def quoteChar (c : Char) : List Char :=
  if c = '\'' then ['\'', '\\', '\'', '\''] else [c]

def quoteChars (cs : List Char) : List Char := '\'' :: cs.flatMap quoteChar ++ ['\'']

/-- A text as one word of a shell line. -/
def quote (s : String) : String := String.ofList (quoteChars s.toList)

end SessionWatch.Shell
