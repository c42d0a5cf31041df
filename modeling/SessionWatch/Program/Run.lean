/-
# The program

A hook never fails and prints nothing, so that it cannot get in the way of the
agent that runs it. The actions of an operator print their results, and a
failure is named together with the subcommand.

Key definitions: `Program.Outcome`, `Program.run`.
-/
import SessionWatch.Daemon.Basic
import SessionWatch.Hooks.Report
import SessionWatch.Program.Arguments

namespace SessionWatch.Program

/-- What the program leaves behind. -/
structure Outcome (σ : Type) where
  exit : Nat := 0
  output : String := ""
  errors : String := ""
  files : Files
  outer : σ

def programName : String := "attn"

/-- What is printed about the use of the program. -/
def usage : String :=
  "Usage: " ++ programName ++ " <COMMAND>\n\nCommands: "
    ++ ", ".intercalate ((subcommands.map Prod.fst).filter (!·.startsWith "_")) ++ "\n"

/-- Carries out an action. -/
def perform {σ : Type} (p : Operator.Place) (client : Client σ) (input : Bytes) (files : Files)
    (outer : σ) (subcommand : String) : Action → Outcome σ
  | .hook call id => { files := files, outer := (call.deliver client id input outer).outer }
  | .operate a =>
    let r := Operator.run p client files outer a
    match r.result with
    | .ok () => { output := r.printed, files := r.files, outer := r.outer }
    | .error f =>
      { exit := 1, output := r.printed
        errors := programName ++ " " ++ subcommand ++ ": " ++ f.message ++ "\n"
        files := r.files, outer := r.outer }

/-- The input is looked at: that is so for the hooks that report what is in it. -/
def readsInput (args : List String) : Bool :=
  match readArguments args with
  | .run _ (.hook .stop _) | .run _ (.hook .todo _) => true
  | _ => false

/-- Runs the program with arguments and an input. -/
def run {σ : Type} (p : Operator.Place) (client : Client σ) (input : Bytes) (files : Files)
    (outer : σ) (args : List String) : Outcome σ :=
  match readArguments args with
  | .misuse => { exit := 2, errors := usage, files := files, outer := outer }
  | .help => { output := usage, files := files, outer := outer }
  | .version =>
    { output := programName ++ " " ++ programVersion ++ "\n", files := files, outer := outer }
  | .run subcommand a => perform p client input files outer subcommand a

end SessionWatch.Program
