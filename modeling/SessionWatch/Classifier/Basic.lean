/-
# Classifiers

A classifier is a command that is run on a prompt and prints a verdict. Which
command that is depends on the agent: one that is configured for the agent,
else the agent's own, else the configured default. The prompt stands in for an
argument, if there is one that asks for it, and is the input otherwise.

Key definitions: `Backend`, `Backend.forAgent`, `CommandLine.invocation`,
`Classifier.Fault`, `Classifier.judge`.
-/
import SessionWatch.Classifier.Prompt
import SessionWatch.Classifier.Verdict
import SessionWatch.Process.Basic
import SessionWatch.Process.Host
import SessionWatch.Session.Abilities

namespace SessionWatch

/-- What is asked for a verdict. -/
inductive Backend where
  | disabled
  | command (c : CommandLine)
  deriving DecidableEq

/-- A command without a program is switched off. -/
def Backend.ofCommand (c : CommandLine) : Backend :=
  if Text.allBlank c.program then .disabled else .command c

/-- What is asked about the messages of an agent. -/
def Backend.forAgent (config : ClassifierConfig) (a : Agent) : Backend :=
  if config.enabled then
    match config.agents.lookup a.name, a.classifier? with
    | some c, _ | none, some c => ofCommand c
    | none, none => ofCommand ⟨config.program, config.args⟩
  else .disabled

/-- How a command is run on a message. -/
def CommandLine.invocation (c : CommandLine) (message : String) : Invocation where
  program := c.program
  args := c.args.map fun a => if a = promptArgument then prompt message else a
  input := if promptArgument ∈ c.args then none else some (Text.utf8 (prompt message))

/-- A time in milliseconds: in seconds from one second on, with as many decimals as it takes. -/
def durationText (ms : Nat) : String :=
  if ms = 0 then "0ns"
  else if ms < 1000 then toString ms ++ "ms"
  else
    let decimals := toString (1000 + ms % 1000)
    let digits := ((decimals.toList.drop 1).reverse.dropWhile (· = '0')).reverse
    toString (ms / 1000) ++ (if digits.isEmpty then "" else "." ++ String.ofList digits) ++ "s"

namespace Classifier

/-- Why there is no verdict. -/
inductive Fault where
  | disabled
  | notStarted (why : StartFault)
  | notText
  | timedOut (ms : Nat)
  | failed (exit : Exit)
  | missing (why : Verdict.Missing)
  deriving DecidableEq

/-- What is told about a classification that failed. -/
def Fault.message : Fault → String
  | .disabled => "classifier is disabled"
  | .notStarted why => "failed to start classifier: " ++ why.message
  | .notText => "classifier I/O failed: stream did not contain valid UTF-8"
  | .timedOut ms => "classifier timed out after " ++ durationText ms
  | .failed exit => "classifier exited with " ++ exit.describe
  | .missing why => why.message

/-- How long the output of a program that has exited is waited for at least. -/
def outputGraceMs : Nat := 200

/-- The verdict of a program that was run, if it came in time. -/
def judge (timeoutMs : Nat) : Except StartFault Execution → Except Fault Verdict
  | .error why => .error (.notStarted why)
  | .ok e =>
    if timeoutMs ≤ e.exitMs then .error (.timedOut timeoutMs)
    else if max timeoutMs (e.exitMs + outputGraceMs) ≤ e.outputMs then .error (.timedOut timeoutMs)
    else match Text.ofUtf8? e.output with
      | none => .error .notText
      | some output =>
        if e.exit = .code 0 then (Verdict.ofOutput output).mapError .missing
        else .error (.failed e.exit)

end Classifier

/-- Asks a backend about a message; `run` runs programs. -/
def Backend.classify (run : Invocation → Except StartFault Execution) (message : String)
    (timeoutMs : Nat) : Backend → Except Classifier.Fault Verdict
  | .disabled => .error .disabled
  | .command c => Classifier.judge timeoutMs (run (c.invocation message))

end SessionWatch
