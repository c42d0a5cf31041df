/-
# Requests that are refused

A request that is refused leaves no trace. Whether its line is rejected, or
its command is refused by the roster or by the feed, the sessions, the mutes
and the record of the last mute stay as they are, and so do the mailboxes of
all observers, but for the reply in that of the observer who asked. A revision
may have been taken for nothing, and nobody can tell: a ticket that was taken
by then has the same outcome, whatever is done before it is used.

The end of a turn can be refused after a classifier was asked, and meanwhile
others change the watch. What the request is measured by is the watch that is
there when the answer has come (`Daemon.awaited`).

Key definitions: `Turn.awaited`, `Daemon.awaited`, `Connection.reply?`,
`Watch.Action.shift`.
Key theorems: `Daemon.answer_refused`, `Watch.commit_of_spent`,
`Connection.refused_without_trace`.
-/
import SessionWatch.Proofs.Connection.Reached
import SessionWatch.Proofs.Connection.Transcript
import SessionWatch.Proofs.Roster.Renumbering
import SessionWatch.Proofs.Watch.StaleStop

namespace SessionWatch

variable {σ : Type}

namespace Watch

/-- The watch after `k` revisions were taken and given to no session. -/
def spend (w : Watch) (k : Nat) : Watch := { w with roster := w.roster.spend k }

/-- A change that is refused takes revisions at most. -/
theorem commit_refused {α : Type} {w : Watch} {o : Roster.Outcome α} (spares : o.Spares w.roster)
    {p : Problem} (refused : (w.commit o).2 = .error p) : ∃ k, (w.commit o).1 = w.spend k := by
  obtain ⟨silent, k, roster⟩ := spares p refused
  refine ⟨k, ?_⟩
  rw [commit, silent, roster]
  rfl

end Watch

/-! ### Turns -/

namespace Turn

variable (outside : Outside σ) (config : ClassifierConfig)

/-- What there is when the state is put down, after a classifier has answered if one was asked. -/
def awaited (w : Watch × σ) (t : TurnEnd) : Watch × σ :=
  match w.1.roster.beginStop t.id with
  | .error _ => w
  | .ok ticket =>
    (settle outside config w
      (decide (outside.transcript w.2) config.maxMessageChars ticket.session t)).2

/-- The end of a turn that is refused takes revisions at most, of the watch that it awaited. -/
theorem finish_refused {w : Watch × σ} {t : TurnEnd} {p : Problem}
    (refused : (finish outside config w t).1 = .error p) :
    ∃ k, (finish outside config w t).2.1 = (awaited outside config w t).1.spend k := by
  unfold finish at refused ⊢
  unfold awaited
  cases hb : w.1.roster.beginStop t.id with
  | error q => exact ⟨0, rfl⟩
  | ok ticket =>
    simp only [hb] at refused ⊢
    generalize settle outside config w _ = settled at refused ⊢
    obtain ⟨⟨s, why⟩, w', outer⟩ := settled
    dsimp only at refused ⊢
    generalize (outside.now outer).1 = now at refused ⊢
    have spares := Roster.spares_commitStop w'.roster now ticket s
    cases hr : (w'.commit (w'.roster.commitStop ticket s now)).2 with
    | error q => exact Watch.commit_refused spares hr
    | ok r =>
      rw [hr] at refused
      cases refused

end Turn

/-! ### Lines -/

namespace Daemon

variable (outside : Outside σ) (setup : Setup)

/-- What there is when a line takes effect: what there is already, or if it tells the end of a
turn what there is when a classifier has answered. -/
def awaited (d : Daemon σ) (line : Bytes) : Watch :=
  match Command.ofLine line with
  | .ok (.stop t) => (Turn.awaited outside setup.classifier (d.watch, d.outer) t).1
  | _ => d.watch

/-- The handling of a line, if it is a refusal, takes revisions of a watch at most. -/
def Handled.Spares (h : Handled σ) (d : Daemon σ) (w : Watch) : Prop :=
  h.reply.ok = false → h.daemon.slots = d.slots ∧ ∃ k, h.daemon.watch = w.spend k

variable {d : Daemon σ}

/-- What a line awaits comes about by what others do while a classifier is asked. -/
theorem leads_awaited (orderly : outside.Orderly) (line : Bytes) :
    d.watch.Leads (d.awaited outside setup line) := by
  unfold awaited
  split
  · unfold Turn.awaited
    split
    · exact .refl d.watch
    · exact Turn.leads_settle orderly setup.classifier (d.watch, d.outer) _
  · exact .refl d.watch

theorem spares_of_accepted {h : Handled σ} {w : Watch} (accepted : h.reply.ok = true) :
    h.Spares d w := by
  intro refused
  rw [accepted] at refused
  cases refused

theorem spares_of_refused (p : Problem) :
    ({ daemon := d, reply := .refusal p } : Handled σ).Spares d d.watch :=
  fun _ => ⟨rfl, 0, rfl⟩

theorem change_spares {α : Type} {o : Roster.Outcome α} {reply : α → Reply}
    (spares : o.Spares d.watch.roster) (accepts : ∀ a, (reply a).ok = true) :
    (d.change o reply).Spares d d.watch := by
  unfold change
  cases hr : (d.watch.commit o).2 with
  | error p => exact fun _ => ⟨rfl, Watch.commit_refused spares hr⟩
  | ok a =>
    refine spares_of_accepted ?_
    dsimp only
    rw [hr]
    exact accepts a

theorem changeNow_spares {α : Type} {f : Roster → Instant → Roster.Outcome α} {reply : α → Reply}
    (spares : ∀ now, (f d.watch.roster now).Spares d.watch.roster)
    (accepts : ∀ a, (reply a).ok = true) :
    (changeNow outside d f reply).Spares d d.watch :=
  change_spares (d := { d with outer := (outside.now d.outer).2 }) (spares _) accepts

/-- **A line that is refused takes revisions at most**, of the watch that it awaited. -/
theorem answer_refused (line : Bytes) :
    (d.answer outside setup line).Spares d (d.awaited outside setup line) := by
  unfold awaited
  cases hc : Command.ofLine line with
  | error p =>
    rw [d.answer_of_error outside setup hc]
    exact spares_of_refused p
  | ok c =>
    rw [d.answer_of_ok outside setup hc]
    cases c with
    | register r => exact changeNow_spares outside (Roster.spares_register _ · r) fun _ => rfl
    | unregister id => exact change_spares (Roster.spares_unregister _ id) fun _ => rfl
    | state id s => exact changeNow_spares outside (Roster.spares_setState _ id · s) fun _ => rfl
    | stop t =>
      have refused {p : Problem} := Turn.finish_refused outside setup.classifier
        (w := (d.watch, d.outer)) (t := t) (p := p)
      simp only [carryOut]
      generalize Turn.finish outside setup.classifier (d.watch, d.outer) t = result at refused ⊢
      obtain ⟨p | s, w, outer⟩ := result
      · exact fun _ => ⟨rfl, refused rfl⟩
      · exact spares_of_accepted rfl
    | todos id todos =>
      exact changeNow_spares outside (Roster.spares_setTodos _ id · todos) fun _ => rfl
    | query filter => exact spares_of_accepted rfl
    | heartbeat id => exact changeNow_spares outside (Roster.spares_touch _ id) fun _ => rfl
    | mute id kind => exact changeNow_spares outside (Roster.spares_mute _ id · kind) fun _ => rfl
    | undoMute => exact change_spares (Roster.spares_undoMute _) fun _ => rfl
    | clearLastMuted => exact spares_of_accepted rfl
    | subscribe => exact spares_of_refused .alreadySubscribed
    | health => exact spares_of_accepted rfl

end Daemon

/-! ### Connections -/

namespace Connection

variable (outside : Outside σ) (setup : Daemon.Setup) {d : Daemon σ} {line : Bytes}

/-- The reply to a line, if there is one: a subscription is replied to if it is refused. -/
def reply? (c : Connection) (line : Bytes) (d : Daemon σ) : Option Reply :=
  match c with
  | .requests _ =>
    match Command.ofLine line, d.watch.subscribe.2 with
    | .ok .subscribe, .error p => some (.refusal p)
    | .ok .subscribe, .ok _ => none
    | _, _ => some (d.answer outside setup line).reply
  | .observing _ => some (d.answer outside setup line).reply
  | .closed => none

/-- A connection that sends requests writes the reply, and the watch is what the line leaves; a
subscription that is refused leaves it as it is. -/
theorem receive_requests {served : Nat} {reply : Reply}
    (told : reply? outside setup (.requests served) line d = some reply) :
    let step := receive outside setup (.requests served) (.line line) d
    step.written = [reply.line] ∧
      step.daemon.watch = (d.answer outside setup line).daemon.watch ∧
      (d.answer outside setup line).reply.ok = reply.ok := by
  intro step
  by_cases subscribes : Command.ofLine line = .ok .subscribe
  · simp only [reply?, subscribes] at told
    cases hs : d.watch.subscribe.2 with
    | ok id =>
      rw [hs] at told
      cases told
    | error p =>
      rw [hs] at told
      obtain rfl := Option.some.inj told
      have closed : (⟨.requests served, [], d⟩ : Course σ).next outside setup (.read (.line line)) =
          ⟨.closed, [(Reply.refusal p).line], d.freed⟩ :=
        Course.next_of_refused outside setup subscribes hs
      rw [d.answer_of_ok outside setup subscribes]
      exact ⟨congrArg Course.written closed,
        congrArg (Daemon.watch ∘ Course.daemon) closed, rfl⟩
  · have same : reply? outside setup (.requests served) line d =
        some (d.answer outside setup line).reply := by
      unfold reply?
      split <;> simp_all
    rw [same] at told
    obtain rfl := Option.some.inj told
    have written := Course.next_line outside setup subscribes served [] d
    exact ⟨congrArg Course.written written,
      congrArg (Daemon.watch ∘ Course.daemon) written, rfl⟩

/-- An observer that is taken off and read out leaves an empty mailbox. -/
theorem remove_drain {f : Feed} {k : Nat} {m : Mailbox} (h : f.find? k = some m) :
    ((f.remove k).1.drain k).1.find? k = some { m with listed := false, queue := [] } ∧
      ((f.remove k).1.drain k).2 = m.queue := by
  have removed := Feed.find?_modify_self (g := ({ · with listed := false })) (fun _ => rfl) h
  refine ⟨Feed.find?_modify_self (g := ({ · with queue := [] })) (fun _ => rfl) removed, ?_⟩
  show ((f.remove k).1.find? k).elim [] _ = m.queue
  rw [Feed.remove, removed]
  rfl

/-- The reply to an observer goes into its mailbox; if there is no room, what is in it is written
and the observer is off the list. -/
theorem receive_observing (line : Bytes) (k : Nat) :
    let h := d.answer outside setup line
    let found := h.daemon.watch.feed
    let step := receive outside setup (.observing k) (.line line) d
    let left := step.daemon.watch.feed
    step.daemon.watch.roster = h.daemon.watch.roster ∧ left.lastId = found.lastId ∧
      (∀ n, k ≠ n → left.find? n = found.find? n) ∧
      ∀ m, found.find? k = some m →
        if m.listed && m.hasRoom found.capacity then
          left.find? k = some { m with queue := m.queue ++ [h.reply.line] } ∧
            step.connection = .observing k ∧ step.written = []
        else
          left.find? k = some { m with listed := false, queue := [] } ∧
            step.connection = .closed ∧ step.written = m.queue := by
  intro h found step left
  have step_eq : step = _ := Course.observeLine_eq outside setup line
  have offered {m : Mailbox} (hm : found.find? k = some m) :
      (found.sendTo k h.reply.line).1.find? k = some (m.offer found.capacity h.reply.line) :=
    Feed.find?_modify_self (fun _ => Mailbox.id_offer) hm
  have apart {n : Nat} (hn : k ≠ n) : (found.sendTo k h.reply.line).1.find? n = found.find? n :=
    Feed.find?_modify_of_ne (fun _ => Mailbox.id_offer) hn
  have room {m : Mailbox} (hm : found.find? k = some m) :
      (m.listed && m.hasRoom found.capacity) = (found.sendTo k h.reply.line).2 := by
    rw [Feed.sendTo, hm, Option.any_some]
  clear_value step
  cases delivered : (found.sendTo k h.reply.line).2 with
  | true =>
    rw [if_pos delivered] at step_eq
    subst step_eq
    refine ⟨rfl, rfl, fun n hn => apart hn, fun m hm => ?_⟩
    have hroom := (room hm).trans delivered
    rw [if_pos hroom, ← Mailbox.offer_of_room hroom]
    exact ⟨offered hm, rfl, rfl⟩
  | false =>
    rw [if_neg (Bool.not_eq_true _ ▸ delivered)] at step_eq
    subst step_eq
    refine ⟨rfl, rfl, fun n hn => ?_, fun m hm => ?_⟩
    · have removed : ((found.sendTo k h.reply.line).1.remove k).1.find? n =
          (found.sendTo k h.reply.line).1.find? n :=
        Feed.find?_modify_of_ne (g := ({ · with listed := false })) (fun _ => rfl) hn
      have drained : (((found.sendTo k h.reply.line).1.remove k).1.drain k).1.find? n =
          ((found.sendTo k h.reply.line).1.remove k).1.find? n :=
        Feed.find?_modify_of_ne (g := ({ · with queue := [] })) (fun _ => rfl) hn
      exact drained.trans (removed.trans (apart hn))
    · have hroom := (room hm).trans delivered
      obtain ⟨emptied, lines⟩ := remove_drain (offered hm)
      rw [Mailbox.offer_of_no_room hroom] at emptied lines
      rw [if_neg (Bool.not_eq_true _ ▸ hroom)]
      exact ⟨emptied, rfl, lines⟩

end Connection

/-! ### What is done afterwards -/

namespace Watch

/-- The action, with the tickets in it renumbered. -/
def Action.shift (last k : Nat) : Action → Action
  | .ask r now => .ask (r.shift last k) now
  | a => a

variable {last k : Nat} {w w' : Watch}

theorem roster_act_shift (same : w'.roster = w.roster.shift last k)
    (given : last ≤ w.roster.lastRevision) (a : Action) :
    (w'.act (a.shift last k)).1.roster = (w.act a).1.roster.shift last k := by
  cases a with
  | ask r now =>
    show (w'.act (.ask (r.shift last k) now)).1.roster = _
    rw [roster_act_ask, roster_act_ask, same, Roster.ask_shift last k now given]
    rfl
  | subscribe | sendTo | remove | take | drain | drop =>
    rw [roster_act (by simp [Action.shift]), roster_act (by simp), same]

/-- **Whatever is done afterwards, the revisions that were left out make no difference.** -/
theorem roster_run_shift : ∀ (as : List Action) {w w' : Watch},
    w'.roster = w.roster.shift last k → last ≤ w.roster.lastRevision →
      (w'.run (as.map (Action.shift last k))).1.roster = (w.run as).1.roster.shift last k
  | [], _, _, same, _ => same
  | a :: as, w, _, same, given =>
    roster_run_shift as (roster_act_shift same given a)
      (Nat.le_trans given (lastRevision_step ⟨w, a⟩))

/-- A ticket that was taken by then has the same outcome. -/
theorem commit_of_spent (sound : w.roster.Sound) (spent : w'.roster = w.roster.spend k)
    (as : List Action) {t : Roster.Ticket} (taken : t.revision ≤ w.roster.lastRevision) (s : State)
    (now : Instant) :
    let commit := Action.ask (.commitStop t s) now
    ((w'.run (as.map (Action.shift w.roster.lastRevision k))).1.act commit).2 =
      ((w.run as).1.act commit).2 := by
  intro commit
  have same : w'.roster = w.roster.shift w.roster.lastRevision k := by
    rw [spent, Roster.shift_of_sound sound]
  have after := roster_run_shift as same (Nat.le_refl _)
  have asked := congrArg Roster.Outcome.result
    (Roster.ask_shift w.roster.lastRevision k now (lastRevision_run as w) (.commitStop t s))
  rw [Roster.Request.shift, Roster.Ticket.shift_of_le _ k taken, ← after] at asked
  refine congrArg Answer.roster (asked.trans ?_)
  -- the outcome has no revision in it
  show ((Roster.commitStop _ t s now).result.map Roster.Answer.stop).map _ =
    (Roster.commitStop _ t s now).result.map Roster.Answer.stop
  cases (Roster.commitStop _ t s now).result <;> rfl

end Watch

/-! ### Refusals on connections -/

namespace Connection

variable (outside : Outside σ) (setup : Daemon.Setup) {d : Daemon σ} {line : Bytes}

/-- **A request that is refused leaves no trace**, in any daemon with a watch that a run leads to,
such as those that connections lead to (`Daemon.Reached.leads`). Others may do anything while a
classifier is asked; by the time that a line takes effect there is a watch, and a refusal leaves
its sessions, mutes and record of the last mute, the mailboxes of all others, and the ids of
observers. The reply is written, or goes into the mailbox of the observer who asked, who is off the list if there
is no room for it. Whatever is done afterwards, a ticket that was taken by then has the same
outcome as without the request. -/
theorem refused_without_trace {capacity limit : Nat}
    (reached : (Watch.new capacity limit).Leads d.watch) (orderly : outside.Orderly)
    {c : Connection} {reply : Reply} (told : c.reply? outside setup line d = some reply)
    (refused : reply.ok = false) :
    let step := c.receive outside setup (.line line) d
    let found := d.awaited outside setup line
    let left := step.daemon.watch
    d.watch.Leads found ∧
    left.roster = { found.roster with lastRevision := left.roster.lastRevision } ∧
    left.feed.lastId = found.feed.lastId ∧
    (∀ k, c ≠ .observing k → left.feed.find? k = found.feed.find? k) ∧
    (∀ served, c = .requests served → step.written = [reply.line] ∧ left.feed = found.feed) ∧
    (∀ k m, c = .observing k → found.feed.find? k = some m →
      if m.listed && m.hasRoom found.feed.capacity then
        left.feed.find? k = some { m with queue := m.queue ++ [reply.line] } ∧
          step.connection = c ∧ step.written = []
      else
        left.feed.find? k = some { m with listed := false, queue := [] } ∧
          step.connection = .closed ∧ step.written = m.queue) ∧
    ∀ bs t s now, t.revision ≤ found.roster.lastRevision →
      let commit := Watch.Action.ask (.commitStop t s) now
      let spent := left.roster.lastRevision - found.roster.lastRevision
      ((left.run (bs.map (.shift found.roster.lastRevision spent))).1.act commit).2 =
        ((found.run bs).1.act commit).2 := by
  intro step found left
  have awaited : d.watch.Leads found := Daemon.leads_awaited outside setup orderly line
  have sound : found.Sound := (reached.trans awaited).sound (Watch.sound_new capacity limit)
  -- what holds of the roster follows from how many revisions were taken
  have spared {k : Nat} (spent : left.roster = found.roster.spend k) :
      left.roster = { found.roster with lastRevision := left.roster.lastRevision } ∧
      ∀ bs t s now, t.revision ≤ found.roster.lastRevision →
        let commit := Watch.Action.ask (.commitStop t s) now
        let spent := left.roster.lastRevision - found.roster.lastRevision
        ((left.run (bs.map (.shift found.roster.lastRevision spent))).1.act commit).2 =
          ((found.run bs).1.act commit).2 := by
    refine ⟨by rw [spent]; rfl, fun bs t s now taken => ?_⟩
    have difference : left.roster.lastRevision - found.roster.lastRevision = k := by
      rw [spent]
      exact Nat.add_sub_cancel_left _ k
    dsimp only
    rw [difference]
    exact Watch.commit_of_spent sound.roster spent bs taken s now
  cases c with
  | closed => cases told
  | requests served =>
    obtain ⟨written, watch, ok⟩ := receive_requests outside setup told
    obtain ⟨-, k, spent⟩ := Daemon.answer_refused outside setup (d := d) line (ok.trans refused)
    have same : left = found.spend k := watch.trans spent
    have feed : left.feed = found.feed := by
      rw [same]
      rfl
    obtain ⟨roster, tickets⟩ := spared (congrArg Watch.roster same)
    refine ⟨awaited, roster, congrArg Feed.lastId feed, fun _ _ => by rw [feed], ?_, ?_,
      tickets⟩
    · rintro _ ⟨⟩
      exact ⟨written, feed⟩
    · rintro _ _ ⟨⟩
  | observing j =>
    obtain rfl := Option.some.inj told
    obtain ⟨-, k, spent⟩ := Daemon.answer_refused outside setup (d := d) line refused
    obtain ⟨kept, lastId, apart, own⟩ := receive_observing outside setup (d := d) line j
    rw [congrArg Watch.feed spent] at lastId apart own
    obtain ⟨roster, tickets⟩ := spared (kept.trans (congrArg Watch.roster spent))
    refine ⟨awaited, roster, lastId, fun k hk => apart k ?_, nofun, ?_, tickets⟩
    · rintro rfl
      exact hk rfl
    · rintro k m ⟨⟩ hm
      exact own m hm

/-- An observer tells the end of a turn, and the session is taken off while a classifier is
asked. A ticket for another session was taken before. -/
theorem refused_without_trace_late :
    let noon : Instant := ⟨⟨2024, 3, 1⟩, 43200, 0⟩
    let ask (r : Roster.Request) : Watch.Action := .ask r noon
    let outside : Outside Unit := ⟨fun _ => (noon, ()), fun _ _ _ _ => none,
      fun _ _ w => (.ok .waitingInput, (w.1.act (ask (.unregister "one"))).1, w.2)⟩
    let setup : Daemon.Setup := ⟨{}, 1⟩
    let before := [.subscribe, ask (.register ⟨"one", "", "/src", .claude⟩),
      ask (.register ⟨"two", "", "/src", .codex⟩), .drain 1]
    let d : Daemon Unit := ⟨((Watch.new 8 1).run before).1, ⟨8, 1⟩, ()⟩
    let line := (Command.stop ⟨"one", none, some "go"⟩).toJson.bytes
    let reply := Reply.refusal (.unknownSession "one")
    let removed := (Event.sessionRemoved "one").line
    let commit := ask (.commitStop ⟨.fresh ⟨"two", "", "/src", .codex⟩ noon, 2⟩ .idle)
    (Watch.new 8 1).Leads d.watch ∧ outside.Orderly ∧
      reply? outside setup (.observing 1) line d = some reply ∧
      (receive outside setup (.observing 1) (.line line) d).daemon.watch.feed.find? 1 =
        some { id := 1, queue := [removed, reply.line] } ∧
      ((receive outside setup (.observing 1) (.line line) d).daemon.watch.act commit).2 =
        .roster (.ok (.stop (.committed .idle))) := by
  intro noon ask outside setup before d line reply removed commit
  have reached : (Watch.new 8 1).Leads d.watch := ⟨before, rfl⟩
  have orderly : outside.Orderly := fun _ _ w _ => w.leads_act (ask (.unregister "one"))
  have stops : Command.ofLine line = .ok (.stop ⟨"one", none, some "go"⟩) := by
    have line := Command.ofLine_line (.stop ⟨"one", none, some "go"⟩)
    rw [Command.accept_line rfl, Command.line, Json.utf8_compact] at line
    exact line
  have told : reply? outside setup (.observing 1) line d = some reply := by
    show some (d.answer outside setup line).reply = _
    rw [d.answer_of_ok outside setup stops]
    rfl
  obtain ⟨-, -, -, -, -, own, tickets⟩ :=
    refused_without_trace outside setup reached orderly told rfl
  have found : d.awaited outside setup line = (d.watch.act (ask (.unregister "one"))).1 := by
    rw [Daemon.awaited, stops]
    rfl
  rw [found] at own tickets
  obtain ⟨put, -, -⟩ := own 1 { id := 1, queue := [removed] } rfl rfl
  have two := tickets [] ⟨.fresh ⟨"two", "", "/src", .codex⟩ noon, 2⟩ .idle noon (by decide)
  simp only [List.map_nil, Watch.run_nil] at two
  exact ⟨reached, orderly, told, put, two.trans rfl⟩

end Connection

end SessionWatch
