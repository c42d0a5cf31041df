/-
# What echo prints

An echo prints its arguments as they are, or with escapes replaced. Which of
the two it does depends on the shell, and on options for the programs that take
them.

Key definitions: `Shell.Echo`, `Shell.Echo.print`.
-/
import SessionWatch.Text.Escape

namespace SessionWatch.Shell

/-- The kinds of echo. -/
inductive Echo where
  | verbatim
  | escapes
  deriving DecidableEq

/-- The escapes of an echo, with hexadecimal numbers for some. -/
def echoEscapes (hex : Bool) : Text.Escapes := { zero := true, hex := hex, stop := true }

/-- What an echo prints for its arguments. -/
def Echo.print (kind : Echo) (args : List String) : String :=
  let text := " ".intercalate args
  match kind with
  | .verbatim => text ++ "\n"
  | .escapes =>
    let (text, more) := (echoEscapes false).expand text
    if more then text ++ "\n" else text

/-- What the echo of a shell prints, which may leave out the line feed. -/
def Echo.printArgs (kind : Echo) : List String → String
  | "-n" :: args =>
    match kind with
    | .verbatim => " ".intercalate args
    | .escapes => ((echoEscapes false).expand (" ".intercalate args)).1
  | args => kind.print args

end SessionWatch.Shell
