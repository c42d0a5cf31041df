/-
# The command line

The program is run with the arguments, the environment and the files that it
finds. A socket of the local kind cannot be opened from here, so a daemon is
never reached: whoever needs one gets to hear why.

Key definitions: `main`.
-/
import SessionWatch.Program.Run
import Std.Time.DateTime.Timestamp

namespace SessionWatch.Shore

/-- The time that the clock of the system shows. -/
def currentInstant : IO Instant := do
  let t ← Std.Time.Timestamp.now
  return .ofNanoNumber
    (t.toNanosecondsSinceUnixEpoch.val + Operator.unixEpochDay * Instant.dayLength * 1000000000)

/-- No more than a hook reads of the input. -/
partial def readInput (stream : IO.FS.Stream) (got : ByteArray) : IO ByteArray := do
  if maxHookInputBytes ≤ got.size then return got
  let chunk ← stream.read 65536
  if chunk.isEmpty then return got
  readInput stream (got ++ chunk)

def environment : IO Environment := do
  return ⟨← IO.getEnv "HOME", ← IO.getEnv socketVariable, ← IO.getEnv "ATTN_CONFIG", none⟩

def client : IO (Client Unit) := do
  return {
    enabled := Client.isEnabled (← IO.getEnv "ATTN_DAEMON_ENABLED")
    socket := (← environment).socket?
    reach := fun _ _ _ outer =>
      (.notConnected (.failed "Protocol not supported (os error 93)"), outer) }

def place : IO Operator.Place := do
  let draw ← IO.rand 0 (UInt32.size - 1)
  let directory := (← IO.currentDir).toString
  return ⟨← currentInstant, draw.toUInt32, directory, some (← IO.appPath).toString⟩

/-- The text of a path from the root. -/
def textOf (path : Path) : String := "/" ++ "/".intercalate path

/-- Replaces a file as a whole, and makes the directories above it. -/
def replace (path : Path) (content : Bytes) : IO Unit := do
  let beside := textOf path ++ ".new"
  IO.FS.createDirAll (textOf path.dropLast)
  IO.FS.writeBinFile beside ⟨content.toArray⟩
  IO.FS.rename beside (textOf path)

end SessionWatch.Shore

open SessionWatch in
def main (args : List String) : IO UInt32 := do
  let input ←
    if Program.readsInput args then Shore.readInput (← IO.getStdin) .empty else pure .empty
  let place ← Shore.place
  let files : Files := { here := Files.names place.directory }
  let o := Program.run place (← Shore.client) input.toList files () args
  for (path, content) in o.files.files do
    Shore.replace path content
  (← IO.getStdout).putStr o.output
  (← IO.getStderr).putStr o.errors
  return o.exit.toUInt32
