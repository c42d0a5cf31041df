/-
# What happens to a watch

Requests change the roster, observers come and go, and their mailboxes are
filled and emptied. A run is a list of such actions in the order in which they
take place.

Key definitions: `Watch.Action`, `Watch.Answer`, `Watch.act`, `Watch.run`.
Key theorems: `Watch.run_append`.
-/
import SessionWatch.Roster.Request
import SessionWatch.Watch.Basic

namespace SessionWatch.Watch

/-- What can happen to a watch. -/
inductive Action where
  | ask (r : Roster.Request) (now : Instant)
  | subscribe
  | sendTo (observer : Nat) (line : String)
  | remove (observer : Nat)
  /-- An observer reads a few lines. -/
  | take (observer count : Nat)
  | drain (observer : Nat)
  /-- Nobody holds the observer's mailbox any more. -/
  | drop (observer : Nat)
  deriving DecidableEq

/-- What an action is answered with. -/
inductive Answer where
  | roster (r : Except Problem Roster.Answer)
  | subscribed (r : Except Problem Nat)
  | flag (b : Bool)
  | lines (ls : List String)

/-- The watch with another feed, and a flag for an answer. -/
def withFeed (w : Watch) (f : Feed × Bool) : Watch × Answer := ({ w with feed := f.1 }, .flag f.2)

/-- Lets an action take place. -/
def act (w : Watch) : Action → Watch × Answer
  | .ask r now => let (w, result) := w.commit (w.roster.ask now r); (w, .roster result)
  | .subscribe => let (w, result) := w.subscribe; (w, .subscribed result)
  | .sendTo n line => w.withFeed (w.feed.sendTo n line)
  | .remove n => w.withFeed (w.feed.remove n)
  | .take n k => let (f, lines) := w.feed.take n k; ({ w with feed := f }, .lines lines)
  | .drain n => let (f, lines) := w.feed.drain n; ({ w with feed := f }, .lines lines)
  | .drop n => w.withFeed (w.feed.drop n)

/-- The actions of a run one after the other, with the answers to them. -/
def run (w : Watch) : List Action → Watch × List Answer
  | [] => (w, [])
  | a :: as =>
    let (w, answer) := w.act a
    let (w, answers) := w.run as
    (w, answer :: answers)

/-- A run is cut anywhere into two runs. -/
theorem run_append (w : Watch) (as bs : List Action) :
    w.run (as ++ bs) = (((w.run as).1.run bs).1, (w.run as).2 ++ ((w.run as).1.run bs).2) := by
  induction as generalizing w with
  | nil => rfl
  | cons a as ih => simp [run, ih]

end SessionWatch.Watch
