/-
# The daemon

The daemon carries out commands, one at a time, and answers each with one
reply. Observers hear of what a command changed before its reply is written.

Key definitions: `Daemon`, `Daemon.new`, `Daemon.carryOut`.
-/
import SessionWatch.Connection.Slots
import SessionWatch.Turn.End
import SessionWatch.Wire.Reply

namespace SessionWatch

/-- A daemon: the roster and its feed, and the budget of connections. -/
structure Daemon (σ : Type) where
  watch : Watch
  slots : Slots
  /-- The state of what is outside. -/
  outer : σ

/-- The version of the program. -/
def programVersion : String := "0.3.0"

/-- The version of the wire format. -/
def protocolVersion : Nat := 1

/-- The bounds that a daemon keeps, and its number among the processes. -/
structure Daemon.Setup where
  classifier : ClassifierConfig
  processId : Nat

/-- What carrying out a command leads to. -/
structure Daemon.Handled (σ : Type) where
  daemon : Daemon σ
  reply : Reply
  /-- What came of the end of a turn, if the command was one. -/
  report : Option Turn.Report := none

namespace Daemon

variable {σ : Type}

/-- A daemon to which nothing has happened yet. -/
def new (c : Config) (outer : σ) : Daemon σ where
  watch := .new c.broadcast.queueCapacity c.broadcast.maxSubscribers
  slots := ⟨c.server.maxConnections, 0⟩
  outer := outer

/-- The answer to a question for the daemon's health, its members in the order of their keys. -/
def health (setup : Setup) (d : Daemon σ) : Json :=
  .object [
    ("active_connections", .number (.int d.slots.active)),
    ("last_muted", ((Shape.optional MuteRecord.shape).toJson d.watch.roster.lastMuted).canonical),
    ("pid", .number (.int setup.processId)),
    ("protocol_version", .number (.int protocolVersion)),
    ("sessions", .number (.int d.watch.roster.count)),
    ("status", .string "ok"),
    ("subscribers", .number (.int d.watch.feed.count)),
    ("version", .string programVersion)]

/-- Puts a change in force and replies. -/
def change {α : Type} (d : Daemon σ) (o : Roster.Outcome α) (reply : α → Reply) : Handled σ :=
  let (w, result) := d.watch.commit o
  { daemon := { d with watch := w }
    reply := match result with
      | .ok a => reply a
      | .error p => .refusal p }

/-- Puts a change that takes place now in force and replies. -/
def changeNow {α : Type} (outside : Outside σ) (d : Daemon σ)
    (f : Roster → Instant → Roster.Outcome α) (reply : α → Reply) : Handled σ :=
  let (now, outer) := outside.now d.outer
  { d with outer := outer }.change (f d.watch.roster now) reply

/-- Carries out a command. A connection that subscribes is an observer already when this is
asked. -/
def carryOut (outside : Outside σ) (setup : Setup) (d : Daemon σ) : Command → Handled σ
  | .register r => changeNow outside d (·.register r) fun _ => .done
  | .unregister id => d.change (d.watch.roster.unregister id) fun _ => .done
  | .state id s => changeNow outside d (·.setState id s) fun _ => .done
  | .stop t =>
    let (result, w, outer) := Turn.finish outside setup.classifier (d.watch, d.outer) t
    let d := { d with watch := w, outer := outer }
    match result with
    | .error p => { daemon := d, reply := .refusal p }
    | .ok (s, report) =>
      { daemon := d, reply := { Reply.done with state := some s }, report := some report }
  | .todos id todos => changeNow outside d (·.setTodos id todos) fun _ => .done
  | .query filter =>
    { daemon := d, reply := { Reply.done with sessions := some (d.watch.roster.query filter) } }
  | .heartbeat id => changeNow outside d (·.touch id) fun _ => .done
  | .mute id kind =>
    changeNow outside d (·.mute kind id) fun flag => { Reply.done with muted := some flag }
  | .undoMute => d.change d.watch.roster.undoMute fun _ => { Reply.done with muted := some false }
  | .clearLastMuted =>
    { daemon := { d with watch := { d.watch with roster := d.watch.roster.clearLastMuted } }
      reply := .done }
  | .subscribe => { daemon := d, reply := .refusal .alreadySubscribed }
  | .health => { daemon := d, reply := { Reply.done with data := some (d.health setup) } }

end Daemon

end SessionWatch
