/-
# Transcript files

Key definitions: `Transcript.lastReplyAt`, `Transcript.replyAt?`,
`Transcript.FileFault.message`.
-/
import SessionWatch.Files.Tree
import SessionWatch.Transcript.LastReply

namespace SessionWatch.Transcript

/-- Why a transcript file cannot be read. -/
inductive FileFault where
  | notOpened (why : Files.Fault)
  | notRead (why : Files.Fault)
  | notText

/-- What is told about a transcript that cannot be read. -/
def FileFault.message (path : String) (f : FileFault) : String :=
  "Transcript read failed: " ++ path ++ ": " ++
    match f with
    | .notOpened why => "failed to open file `" ++ path ++ "`: " ++ why.message
    | .notRead why => "failed to read from file `" ++ path ++ "`: " ++ why.message
    | .notText => "stream did not contain valid UTF-8"

/-- The end of the last reply in a transcript file. -/
def lastReplyAt (fs : Files) (f : Format) (max : Nat) (path : String) :
    Except FileFault (Option String) :=
  match fs.lookup path with
  | .error why => .error (.notOpened why)
  | .ok (_, .file content) => (read f max content).elim (.error .notText) .ok
  | .ok (_, _) => .error (.notRead .isDirectory)

/-- The end of the last reply in a transcript file; one that cannot be read has none. -/
def replyAt? (fs : Files) (f : Format) (max : Nat) (path : String) : Option String :=
  match lastReplyAt fs f max path with
  | .ok reply => reply
  | .error _ => none

end SessionWatch.Transcript
