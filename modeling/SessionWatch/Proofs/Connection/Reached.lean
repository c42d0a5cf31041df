/-
# What connections do to the watch

Whatever is read on connections, a daemon does nothing to its watch but let
actions take place: every step of a connection is a run. So what holds of the
watches that runs lead to holds of every daemon, whatever happens on its
connections and in whatever order. Others act while a classifier is asked, and
all that is needed of them is that they do the same.

Key definitions: `Watch.Leads`, `Outside.Orderly`, `Daemon.Reached`.
Key theorems: `Connection.leads_receive`, `Daemon.Reached.leads`.
-/
import SessionWatch.Proofs.Connection.Course
import SessionWatch.Proofs.Watch.Step

namespace SessionWatch

variable {σ : Type}

namespace Watch

/-- A run leads from a watch to another one. -/
def Leads (w w' : Watch) : Prop := ∃ as, w' = (w.run as).1

variable {w w' w'' : Watch}

theorem Leads.refl (w : Watch) : w.Leads w := ⟨[], rfl⟩

theorem Leads.trans (h : w.Leads w') (h' : w'.Leads w'') : w.Leads w'' := by
  obtain ⟨as, rfl⟩ := h
  obtain ⟨bs, rfl⟩ := h'
  exact ⟨as ++ bs, (run_append_fst w as bs).symm⟩

theorem leads_act (w : Watch) (a : Action) : w.Leads (w.act a).1 := ⟨[a], rfl⟩

/-- To put the outcome of a request in force is to ask for it. -/
theorem leads_commit {α : Type} {o : Roster.Outcome α} (f : α → Roster.Answer)
    (r : Roster.Request) (now : Instant) (h : w.roster.ask now r = o.map f) :
    w.Leads (w.commit o).1 := by
  refine ⟨[.ask r now], ?_⟩
  show (w.commit o).1 = (w.commit (w.roster.ask now r)).1
  rw [h]
  rfl

theorem leads_subscribe (w : Watch) : w.Leads w.subscribe.1 := leads_act w .subscribe

theorem Leads.sound (h : w.Leads w') (hw : w.Sound) : w'.Sound := by
  obtain ⟨as, rfl⟩ := h
  exact hw.run as

end Watch

/-- While a verdict is waited for, others let actions take place only. -/
def Outside.Orderly (outside : Outside σ) : Prop :=
  ∀ q ms w s, Watch.Leads w (outside.consult q ms (w, s)).2.1

variable {outside : Outside σ} (orderly : outside.Orderly) (setup : Daemon.Setup)

section turn

variable (config : ClassifierConfig) (w : Watch × σ)

include orderly

theorem Turn.leads_settle (d : Decision) : w.1.Leads (settle outside config w d).2.1 := by
  unfold settle
  split
  · exact .refl w.1
  · exact orderly _ _ w.1 w.2

theorem Turn.leads_finish (t : TurnEnd) : w.1.Leads (finish outside config w t).2.1 := by
  unfold finish
  cases w.1.roster.beginStop t.id with
  | error p => exact .refl w.1
  | ok ticket =>
    refine (leads_settle orderly config w (decide (outside.transcript w.2) config.maxMessageChars
      ticket.session t)).trans ?_
    dsimp only
    split <;> exact Watch.leads_commit .stop (.commitStop ticket _) _ rfl

end turn

namespace Daemon

variable {d : Daemon σ}

include orderly

/-- **To carry out a command is to let actions take place.** -/
theorem leads_carryOut (c : Command) :
    d.watch.Leads (d.carryOut outside setup c).daemon.watch := by
  -- a command that does not depend on the time takes place at any
  let now := (outside.now d.outer).1
  cases c with
  | register r => exact Watch.leads_commit .session (.register r) now rfl
  | unregister id => exact Watch.leads_commit .flag (.unregister id) now rfl
  | state id s => exact Watch.leads_commit .session (.setState id s) now rfl
  | stop t =>
    have finished := Turn.leads_finish orderly setup.classifier (d.watch, d.outer) t
    simp only [carryOut]
    split <;> exact finished
  | todos id todos => exact Watch.leads_commit (fun _ => .done) (.setTodos id todos) now rfl
  | heartbeat id => exact Watch.leads_commit (fun _ => .done) (.touch id) now rfl
  | mute id kind => exact Watch.leads_commit .flag (.mute kind id) now rfl
  | undoMute => exact Watch.leads_commit .record .undoMute now rfl
  | clearLastMuted => exact Watch.leads_act d.watch (.ask .clearLastMuted now)
  | query | subscribe | health => exact .refl d.watch

theorem leads_answer (line : Bytes) :
    d.watch.Leads (d.answer outside setup line).daemon.watch := by
  unfold answer
  split
  · exact .refl d.watch
  · split
    · exact .refl d.watch
    · exact leads_carryOut orderly setup _

end Daemon

/-! ### Connections -/

namespace Connection

variable (d : Daemon σ)

theorem leads_arrive : d.watch.Leads (arrive d).daemon.watch := by
  unfold arrive
  dsimp only
  split <;> exact .refl d.watch

theorem leads_stopObserving (id : Nat) : d.watch.Leads (stopObserving id d).daemon.watch :=
  ⟨[.remove id, .drain id], rfl⟩

theorem leads_flush (c : Connection) : d.watch.Leads (c.flush d).daemon.watch := by
  cases c with
  | observing id =>
    simp only [flush]
    split
    · exact Watch.leads_act d.watch (.drain id)
    · exact leads_stopObserving d id
  | requests | closed => exact .refl d.watch

include orderly

theorem leads_receiveLine (served : Nat) (line : Bytes) :
    d.watch.Leads (receiveLine outside setup served line d).daemon.watch := by
  unfold receiveLine
  split
  · exact .refl d.watch
  · have subscribed := Watch.leads_subscribe d.watch
    split <;> rename_i hs <;> rw [hs] at subscribed <;> exact subscribed
  · exact Daemon.leads_carryOut orderly setup _

theorem leads_observeLine (id : Nat) (line : Bytes) :
    d.watch.Leads (observeLine outside setup id line d).daemon.watch := by
  rw [Course.observeLine_eq]
  dsimp only
  have sent : d.watch.Leads ((d.answer outside setup line).daemon.withFeed
      ((d.answer outside setup line).daemon.watch.feed.sendTo id
        (d.answer outside setup line).reply.line).1).watch :=
    (Daemon.leads_answer orderly setup line).trans (Watch.leads_act _ (.sendTo id _))
  split
  · exact sent
  · exact sent.trans (leads_stopObserving _ id)

/-- **What is read on a connection lets actions take place.** -/
theorem leads_receive (c : Connection) (r : Received) :
    d.watch.Leads (c.receive outside setup r d).daemon.watch := by
  cases c with
  | closed => exact .refl d.watch
  | requests served =>
    cases r with
    | line line => exact leads_receiveLine orderly setup d served line
    | ended | waiting => exact .refl d.watch
    | refused p => cases p <;> exact .refl d.watch
  | observing id =>
    cases r with
    | line line => exact leads_observeLine orderly setup d id line
    | waiting => exact .refl d.watch
    | ended | refused p => exact leads_stopObserving d id

end Connection

/-- The daemons that come about by what happens on connections, whatever connections there are and
in whatever order. -/
inductive Daemon.Reached (outside : Outside σ) (setup : Setup) (start : Daemon σ) :
    Daemon σ → Prop where
  | start : Reached outside setup start start
  | arrived {d : Daemon σ} (h : Reached outside setup start d) :
      Reached outside setup start (Connection.arrive d).daemon
  | received {d : Daemon σ} (c : Connection) (r : Received) (h : Reached outside setup start d) :
      Reached outside setup start (c.receive outside setup r d).daemon
  | flushed {d : Daemon σ} (c : Connection) (h : Reached outside setup start d) :
      Reached outside setup start (c.flush d).daemon

/-- **A daemon has a watch that a run leads to.** -/
theorem Daemon.Reached.leads (orderly : outside.Orderly) {setup : Setup} {start d : Daemon σ}
    (h : Reached outside setup start d) : start.watch.Leads d.watch := by
  induction h with
  | start => exact .refl start.watch
  | @arrived d _ ih => exact ih.trans (Connection.leads_arrive d)
  | @received d c r _ ih => exact ih.trans (Connection.leads_receive orderly setup d c r)
  | @flushed d c _ ih => exact ih.trans (Connection.leads_flush d c)

end SessionWatch
