/-
# Lists of sessions

A session is shown in one row: its id, state and agent in columns, how long
ago it changed, and where it is. Columns are as wide as their characters.

Key definitions: `ageText`, `Session.row`.
-/
import SessionWatch.Session.Basic

namespace SessionWatch

/-- Fills a text with blanks behind it. -/
def padRight (width : Nat) (s : String) : String :=
  s ++ String.ofList (List.replicate (width - s.length) ' ')

/-- Fills a text with blanks before it. -/
def padLeft (width : Nat) (s : String) : String :=
  String.ofList (List.replicate (width - s.length) ' ') ++ s

/-- A time in the largest whole unit; what lies ahead counts as now. -/
def ageText (seconds : Int) : String :=
  let n := seconds.toNat
  if n < 60 then toString n ++ "s"
  else if n < 3600 then toString (n / 60) ++ "m"
  else if n < 86400 then toString (n / 3600) ++ "h"
  else toString (n / 86400) ++ "d"

/-- The row of a session. -/
def Session.row (now : Instant) (s : Session) : String :=
  padRight 24 s.id ++ " " ++ padRight 16 s.state.name ++ " " ++ padRight 7 s.agent.name ++ " "
    ++ padLeft 5 (ageText (now.secondsSince s.updatedAt)) ++ " "
    ++ (if s.muted then "[muted] " else "") ++ s.label ++ " " ++ s.cwd

end SessionWatch
