/-
# Requests to the roster

Everything that can be asked of a roster, as data. A history of the roster is
then a list of requests with their times, and what holds of all histories is
said of lists.

Key definitions: `Roster.Request`, `Roster.Answer`, `Roster.ask`.
-/
import SessionWatch.Roster.Change

namespace SessionWatch.Roster

/-- What can be asked of a roster. -/
inductive Request where
  | register (r : Registration)
  | unregister (id : String)
  | setState (id : String) (s : State)
  | beginStop (id : String)
  | commitStop (t : Ticket) (s : State)
  | setTodos (id : String) (todos : List String)
  | touch (id : String)
  | mute (kind : MuteKind) (id : String)
  | undoMute
  | clearLastMuted
  deriving DecidableEq

/-- What a request that is not refused is answered with. -/
inductive Answer where
  | done
  | session (s : Session)
  | flag (b : Bool)
  | record (r : MuteRecord)
  | ticket (t : Ticket)
  | stop (r : StopResult)
  deriving DecidableEq

/-- An outcome with another form of its answer. -/
def Outcome.map {α β : Type} (f : α → β) (o : Outcome α) : Outcome β :=
  ⟨o.roster, o.event, o.result.map f⟩

/-- What a request leads to. -/
def ask (ro : Roster) (now : Instant) : Request → Outcome Answer
  | .register r => (ro.register r now).map .session
  | .unregister id => (ro.unregister id).map .flag
  | .setState id s => (ro.setState id s now).map .session
  | .beginStop id => ⟨ro, none, (ro.beginStop id).map .ticket⟩
  | .commitStop t s => (ro.commitStop t s now).map .stop
  | .setTodos id todos => (ro.setTodos id todos now).map fun _ => .done
  | .touch id => (ro.touch id now).map fun _ => .done
  | .mute kind id => (ro.mute kind id now).map .flag
  | .undoMute => ro.undoMute.map .record
  | .clearLastMuted => ⟨ro.clearLastMuted, none, .ok .done⟩

end SessionWatch.Roster
