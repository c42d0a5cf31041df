/-
# What operators do

An operator registers and mutes sessions, lists and watches them, and makes
hook settings. What comes of it is printed; a refusal of the daemon is passed
on with its message alone.

Key definitions: `Operator.Action`, `Operator.Place`, `Operator.Result`,
`Operator.run`.
-/
import SessionWatch.Client.Basic
import SessionWatch.Hooks.Generate
import SessionWatch.Hooks.Save
import SessionWatch.Operator.Listing
import SessionWatch.Session.Abilities
import SessionWatch.Text.Pieces

namespace SessionWatch.Operator

/-- A session to be registered, as far as it is named. -/
structure Newcomer where
  id : Option String := none
  label : Option String := none
  cwd : Option String := none
  agent : Agent := .claude
  deriving DecidableEq

/-- Which hook settings are wanted, and where they go. -/
structure Wiring where
  id : String
  agent : Agent := .claude
  socket : Option String := none
  wrapper : Option String := none
  /-- The file to be written; without it the settings are printed. -/
  out : Option String := none
  /-- A line that takes the session off is wanted instead. -/
  unregisterLine : Bool := false
  deriving DecidableEq

/-- What an operator asks for. -/
inductive Action where
  | register (n : Newcomer)
  | unregister (id : String)
  | list (filter : Option State)
  | hooks (w : Wiring)
  | watch
  | mute (id : String) (kind : MuteKind)
  | undoMute
  deriving DecidableEq

/-- What surrounds an operator. -/
structure Place where
  now : Instant
  /-- A number that nobody else has just drawn. -/
  draw : UInt32
  directory : String
  /-- The path of the running program, if that is known. -/
  program : Option String

/-- Why an operator does not get it. -/
inductive Fault where
  | noSocketPath
  | noHooks (a : Agent)
  | notSaved (why : String)
  | notSent (why : Client.Fault)
  | refused (message : String)
  /-- What is watched is no text. -/
  | notText
  | lost (why : String)

/-- What an operator is told about that. -/
def Fault.message : Fault → String
  | .noSocketPath => "Home directory not found"
  | .noHooks a => a.displayName ++ " has no hook support"
  | .notSaved why => why
  | .notSent why => why.message
  | .refused message => message
  | .notText => "Lost daemon connection: stream did not contain valid UTF-8"
  | .lost why => "Lost daemon connection: " ++ why

/-- What was printed, what came of it, and what is different afterwards. -/
structure Result (σ : Type) where
  printed : String := ""
  result : Except Fault Unit := .ok ()
  files : Files
  outer : σ

/-- The eight hexadecimal digits of a number. -/
def hexWord (n : UInt32) : String :=
  let digits := Nat.toDigits 16 n.toNat
  String.ofList (List.replicate (8 - digits.length) '0' ++ digits)

/-- The number of the first day of the year 1970. -/
def unixEpochDay : Int := (⟨1970, 1, 1⟩ : Date).dayNumber

/-- Milliseconds from the beginning of the year 1970. -/
def unixMilliseconds (t : Instant) : Int :=
  (t.nanoNumber - unixEpochDay * Instant.dayLength * 1000000000) / 1000000

/-- An id for a session that has none. -/
def newId (p : Place) : String :=
  "attn-" ++ toString (unixMilliseconds p.now) ++ "-" ++ hexWord p.draw

/-- The last name in a path; none if it leads up, or nowhere. -/
def lastName (path : String) : String :=
  match ((path.splitOn "/").filter fun p => p ≠ "" ∧ p ≠ ".").getLast? with
  | none => ""
  | some name => if name = ".." then "" else name

/-- The session to be registered, with everything that was not named. -/
def Newcomer.registration (n : Newcomer) (p : Place) : Registration :=
  let cwd := n.cwd.getD p.directory
  ⟨n.id.getD (newId p), n.label.getD (lastName cwd), cwd, n.agent⟩

/-- Sends a command; only the reply of a success counts. -/
def ask {σ : Type} (client : Client σ) (c : Command) (outer : σ) : Except Fault Reply × σ :=
  let d := client.send c Client.replyTimeoutMs outer
  match d.result with
  | .error f => (.error (.notSent f), d.outer)
  | .ok r =>
    (if r.ok then .ok r else .error (.refused (r.error.getD "Unknown daemon error")), d.outer)

/-- Asks the daemon and prints something about its reply. -/
def askAndPrint {σ : Type} (client : Client σ) (c : Command) (show' : Reply → String)
    (files : Files) (outer : σ) : Result σ :=
  match ask client c outer with
  | (.error f, outer) => { result := .error f, files := files, outer := outer }
  | (.ok r, outer) => { printed := show' r, files := files, outer := outer }

/-- The hook settings that are wanted, printed or saved. -/
def wire {σ : Type} (p : Place) (client : Client σ) (w : Wiring) (files : Files) (outer : σ) :
    Result σ :=
  match w.socket <|> client.socket with
  | none => { result := .error .noSocketPath, files := files, outer := outer }
  | some socket =>
    if w.unregisterLine then
      { printed := SessionWatch.unregisterLine w.id socket ++ "\n", files := files, outer := outer }
    else if w.agent.hasHooks then
      let wrapper := w.wrapper.getD (p.program.getD defaultWrapper)
      let settings := HookSettings.forSession w.id socket wrapper
      match w.out with
      | none => { printed := settings.text ++ "\n", files := files, outer := outer }
      | some path =>
        let (files, result) := settings.save files path
        { result := result.mapError .notSaved, files := files, outer := outer }
    else { result := .error (.noHooks w.agent), files := files, outer := outer }

/-- A line without the carriage return at its end, if a line feed followed it. -/
def dropReturn (closed : Bool) (line : Bytes) : Bytes :=
  if closed ∧ line.getLast? = some 0x0D then line.dropLast else line

/-- What is printed of the lines of a stream, up to the first one that is no text; `closed`
tells whether a line feed follows the last one. -/
def watched (ending : Contact.Ending) (closed : Bool) :
    List Bytes → List String × Except Fault Unit
  | [] =>
    ([], match ending with
      | .failed why => .error (.lost why)
      | .closed | .silent => .ok ())
  | line :: lines =>
    match Text.ofUtf8? (dropReturn (closed ∨ ¬ lines.isEmpty) line) with
    | none => ([], .error .notText)
    | some text =>
      let (printed, result) := watched ending closed lines
      ((text ++ "\n") :: printed, result)

/-- Prints every line of the feed until it ends. -/
def watch {σ : Type} (client : Client σ) (files : Files) (outer : σ) : Result σ :=
  let d := client.exchange .subscribe Client.replyTimeoutMs outer
  match d.result with
  | .error f => { result := .error (.notSent f), files := files, outer := d.outer }
  | .ok (bytes, ending) =>
    let (printed, result) := watched ending (bytes.getLast? = some 0x0A) (Bytes.pieces bytes)
    { printed := String.join printed, result := result, files := files, outer := d.outer }

/-- Does what an operator asks for. -/
def run {σ : Type} (p : Place) (client : Client σ) (files : Files) (outer : σ) :
    Action → Result σ
  | .register n =>
    let r := n.registration p
    askAndPrint client (.register r) (fun _ => r.id ++ "\n") files outer
  | .unregister id => askAndPrint client (.unregister id) (fun _ => "") files outer
  | .list filter =>
    askAndPrint client (.query filter)
      (fun r => String.join ((r.sessions.getD []).map fun s => s.row p.now ++ "\n")) files outer
  | .hooks w => wire p client w files outer
  | .watch => watch client files outer
  | .mute id kind =>
    askAndPrint client (.mute id kind)
      (fun r =>
        (if r.muted.getD false then "muted " else "unmuted ") ++ kind.name ++ " " ++ id ++ "\n")
      files outer
  | .undoMute => askAndPrint client .undoMute (fun _ => "undone\n") files outer

end SessionWatch.Operator
