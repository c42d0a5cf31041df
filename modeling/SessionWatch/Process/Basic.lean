/-
# Programs that are run

A program is started with arguments and perhaps an input; it prints an output
and exits with a code, or a signal ends it. How long both take is counted in
milliseconds from the start.

Key definitions: `Invocation`, `Exit`, `Execution`, `Signal.name?`, `Signal.ofName?`.
-/
import SessionWatch.Text.Utf8

namespace SessionWatch

/-- A program with its arguments, and its input unless that is empty. -/
structure Invocation where
  program : String
  args : List String
  input : Option Bytes
  deriving DecidableEq

namespace Signal

/-- The names of the signals, from number one on. -/
def names : List String :=
  ["HUP", "INT", "QUIT", "ILL", "TRAP", "ABRT", "BUS", "FPE", "KILL", "USR1", "SEGV", "USR2",
   "PIPE", "ALRM", "TERM", "STKFLT", "CHLD", "CONT", "STOP", "TSTP", "TTIN", "TTOU", "URG",
   "XCPU", "XFSZ", "VTALRM", "PROF", "WINCH", "IO", "PWR", "SYS"]

/-- The name of a signal, if it has one. -/
def name? (n : Nat) : Option String := if n = 0 then none else names[n - 1]?

/-- The first and the last signal without a name of its own. -/
def realTime : Nat × Nat := (34, 64)

/-- Other names of some signals. -/
def aliases : List (String × Nat) :=
  [("EXIT", 0), ("IOT", 6), ("CLD", 17), ("POLL", 29), ("RTMIN", 34), ("RTMAX", 64)]

/-- The signal of this name. -/
def ofName? (name : String) : Option Nat :=
  match names.findIdx? (· = name) with
  | some k => some (k + 1)
  | none => aliases.lookup name

/-- Signals that end no program: most are passed over, the others let it stop and go on. -/
def harmless : List Nat := [17, 18, 23, 28]

/-- What is said about a program that a signal has ended. -/
def describe (n : Nat) : String :=
  let texts : List (Nat × String) :=
    [(1, "Hangup"), (3, "Quit"), (4, "Illegal instruction"), (5, "Trace/breakpoint trap"),
     (6, "Aborted"), (7, "Bus error"), (8, "Floating point exception"), (9, "Killed"),
     (10, "User defined signal 1"), (11, "Segmentation fault"), (12, "User defined signal 2"),
     (14, "Alarm clock"), (15, "Terminated"), (16, "Stack fault"),
     (24, "CPU time limit exceeded"), (25, "File size limit exceeded"),
     (26, "Virtual timer expired"), (27, "Profiling timer expired"), (29, "I/O possible"),
     (30, "Power failure"), (31, "Bad system call")]
  (texts.lookup n).getD ("Real-time signal " ++ toString (n - 34))

/-- Signals that hold a program up until it is told to go on. -/
def stopping : List Nat := [19, 20, 21, 22]

end Signal

/-- How a program ends. -/
inductive Exit where
  | code (n : Nat)
  | signal (n : Nat)
  deriving DecidableEq

/-- The number by which a shell knows an end. -/
def Exit.status : Exit → Nat
  | .code n => n
  | .signal n => 128 + n

/-- How an end is called in a complaint. -/
def Exit.describe : Exit → String
  | .code n => "exit status: " ++ toString n
  | .signal n => "signal: " ++ toString n
      ++ ((Signal.name? n).map fun name => " (SIG" ++ name ++ ")").getD ""

/-- What a program that was started did. -/
structure Execution where
  output : Bytes
  exit : Exit
  /-- When it exited. -/
  exitMs : Nat
  /-- When its output was complete: whoever it left behind may still print. -/
  outputMs : Nat
  deriving DecidableEq

end SessionWatch
