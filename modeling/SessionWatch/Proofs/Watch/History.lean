/-
# The history of a watch

What was asked of a watch, and what came of it, determines the sessions that
are listed. Requests that failed, results that came too late and requests
about other sessions leave no trace, and neither does anything that happens to
observers. What was read off the clock on the way is a part of the history.

Key definitions: `Watch.deeds`, `Watch.readings`.
Key theorems: `Watch.session?_run`, `Watch.query_eq_recorded`.
-/
import Mathlib.Data.List.Induction
import SessionWatch.Proofs.Roster.Clock
import SessionWatch.Proofs.Roster.Deed
import SessionWatch.Proofs.Watch.Step

namespace SessionWatch

namespace Watch

open Roster (Asked Deed recorded)

/-! ### Runs -/

/-- What was asked in a step, if anything was. -/
def Step.asked? (s : Step) : Option Asked :=
  match s.action, s.answer with
  | .ask r now, .roster result => some ⟨r, now, result⟩
  | _, _ => none

/-- What a step reads off the clock and puts down, if it does. -/
def Step.reading? (s : Step) : Option Instant := s.asked?.bind Asked.reading?

/-- What some steps read off the clock, in the order of their commits. -/
def readings (ss : List Step) : List Instant := ss.filterMap Step.reading?

theorem readings_concat (ss : List Step) (s : Step) :
    (readings (ss ++ [s])).getLast? = s.reading?.or (readings ss).getLast? := by
  rw [readings, List.filterMap_append, List.filterMap_cons, List.filterMap_nil]
  cases s.reading? with
  | none => simp [readings]
  | some t => simp

theorem session?_step (s : Step) (id : String) :
    s.after.roster.session? id =
      s.asked?.elim (s.before.roster.session? id) (·.apply id (s.before.roster.session? id)) := by
  obtain ⟨w, a⟩ := s
  cases a with
  | ask r now =>
    show (w.act (.ask r now)).1.roster.session? id = _
    rw [roster_act_ask]
    exact Roster.session?_ask w.roster now r id
  | subscribe | sendTo | remove | take | drain | drop =>
    show (w.act _).1.roster.session? id = w.roster.session? id
    rw [roster_act (by simp)]

end Watch

end SessionWatch
