/-
# The steps of a run

A run as the list of its steps, each an action together with the watch that it
finds. What is said of a run is then said of its steps: which events are told,
and what is addressed to an observer.

Every watch that a run leads to has a sound roster and a sound feed.

Key definitions: `Watch.Step`, `Watch.steps`, `Watch.Step.event?`,
`Watch.events`, `Watch.Letter`, `Watch.letters`, `Watch.Sound`.
Key theorems: `Watch.steps_append`, `Watch.sound_run`, `Watch.events_letters`.
-/
import SessionWatch.Proofs.Feed.Mailbox
import SessionWatch.Proofs.Roster.Effect
import SessionWatch.Watch.Action

namespace SessionWatch.Watch

/-- An action and the watch that it finds. -/
structure Step where
  before : Watch
  action : Action

/-- The watch that a step leaves. -/
def Step.after (s : Step) : Watch := (s.before.act s.action).1

/-- What the action of a step is answered with. -/
def Step.answer (s : Step) : Answer := (s.before.act s.action).2

/-- The steps of a run. -/
def steps (w : Watch) : List Action → List Step
  | [] => []
  | a :: as => ⟨w, a⟩ :: steps (w.act a).1 as

@[simp] theorem run_nil (w : Watch) : w.run [] = (w, []) := rfl

@[simp] theorem run_cons_fst (w : Watch) (a : Action) (as : List Action) :
    (w.run (a :: as)).1 = ((w.act a).1.run as).1 := rfl

@[simp] theorem steps_nil (w : Watch) : w.steps [] = [] := rfl

@[simp] theorem steps_cons (w : Watch) (a : Action) (as : List Action) :
    w.steps (a :: as) = ⟨w, a⟩ :: (w.act a).1.steps as := rfl

theorem steps_append (w : Watch) (as bs : List Action) :
    w.steps (as ++ bs) = w.steps as ++ (w.run as).1.steps bs := by
  induction as generalizing w with
  | nil => rfl
  | cons a as ih =>
    rw [List.cons_append, steps_cons, ih, steps_cons, run_cons_fst, List.cons_append]

theorem run_append_fst (w : Watch) (as bs : List Action) :
    (w.run (as ++ bs)).1 = ((w.run as).1.run bs).1 := by
  rw [run_append]

/-- What is kept by the steps of a kind holds all along a run of such steps. -/
theorem run_keeps_while {P : Watch → Prop} {Q : Step → Prop}
    (keep : ∀ s : Step, P s.before → Q s → P s.after) :
    ∀ (as : List Action) (w : Watch), P w → (∀ s ∈ w.steps as, Q s) →
      P (w.run as).1 ∧ ∀ s ∈ w.steps as, P s.before
  | [], _, h, _ => ⟨h, fun s hs => absurd hs List.not_mem_nil⟩
  | a :: as, w, h, hq => by
    have hstep := keep ⟨w, a⟩ h (hq _ List.mem_cons_self)
    obtain ⟨hend, hall⟩ :=
      run_keeps_while keep as (w.act a).1 hstep fun s hs => hq s (List.mem_cons_of_mem _ hs)
    refine ⟨hend, fun s hs => ?_⟩
    rcases List.mem_cons.mp hs with rfl | hs
    · exact h
    · exact hall s hs

/-- What every step keeps holds at the end of a run. -/
theorem run_keeps {P : Watch → Prop} (keep : ∀ w a, P w → P (w.act a).1) (as : List Action)
    (w : Watch) (h : P w) : P (w.run as).1 :=
  (run_keeps_while (Q := fun _ => True) (fun s hs _ => keep s.before s.action hs) as w h
    fun _ _ => trivial).1

/-- What every step keeps holds before each step of a run. -/
theorem steps_keep {P : Watch → Prop} (keep : ∀ w a, P w → P (w.act a).1) (as : List Action)
    (w : Watch) (h : P w) : ∀ s ∈ w.steps as, P s.before :=
  (run_keeps_while (Q := fun _ => True) (fun s hs _ => keep s.before s.action hs) as w h
    fun _ _ => trivial).2

/-! ### Rosters along a run -/

/-- The event that a step tells, if it tells one. -/
def Step.event? (s : Step) : Option Event :=
  match s.action with
  | .ask r now => (s.before.roster.ask now r).event
  | _ => none

/-- The events of a run, in order. -/
def events (ss : List Step) : List Event := ss.filterMap Step.event?

theorem events_concat (ss : List Step) (s : Step) :
    events (ss ++ [s]) = events ss ++ s.event?.toList := by
  rw [events, List.filterMap_append]
  cases h : s.event? <;> simp [events, h]

@[simp] theorem roster_tell (w : Watch) (e : Option Event) : (w.tell e).roster = w.roster := by
  cases e <;> rfl

theorem roster_act_ask (w : Watch) (r : Roster.Request) (now : Instant) :
    (w.act (.ask r now)).1.roster = (w.roster.ask now r).roster := by
  simp [act, commit]

theorem roster_subscribe (w : Watch) : w.subscribe.1.roster = w.roster := by
  unfold subscribe
  split <;> rfl

/-- An action that asks nothing of the roster leaves it as it is. -/
theorem roster_act {w : Watch} {a : Action} (h : ∀ r now, a ≠ .ask r now) :
    (w.act a).1.roster = w.roster := by
  cases a with
  | ask r now => exact absurd rfl (h r now)
  | subscribe => exact roster_subscribe w
  | sendTo | remove | take | drain | drop => rfl

/-- The roster after a step is an effect on the one before. -/
theorem Step.effect (s : Step) :
    (∃ now, s.before.roster.Effect now s.after.roster s.event?) ∨
      (s.after.roster = s.before.roster ∧ s.event? = none) := by
  obtain ⟨w, a⟩ := s
  cases a with
  | ask r now =>
    refine .inl ⟨now, ?_⟩
    show w.roster.Effect now (w.act (.ask r now)).1.roster _
    rw [roster_act_ask]
    exact Roster.ask_effect w.roster now r
  | subscribe | sendTo | remove | take | drain | drop =>
    exact .inr ⟨roster_act (by simp), rfl⟩

/-- What every effect on a roster keeps, an action keeps. -/
theorem roster_act_keeps {P : Roster → Prop} {w : Watch} (h : P w.roster)
    (keep : ∀ {now ro' ev}, w.roster.Effect now ro' ev → P ro') (a : Action) :
    P (w.act a).1.roster := by
  rcases Step.effect ⟨w, a⟩ with ⟨now, he⟩ | ⟨same, -⟩
  · exact keep he
  · have kept : (w.act a).1.roster = w.roster := same
    exact kept ▸ h

/-! ### Sound watches -/

/-- A watch whose roster and feed are sound. -/
structure Sound (w : Watch) : Prop where
  roster : w.roster.Sound
  feed : w.feed.Sound

theorem sound_new (capacity limit : Nat) : (Watch.new capacity limit).Sound :=
  ⟨Roster.sound_empty, Feed.sound_new capacity limit⟩

theorem Sound.act {w : Watch} (h : w.Sound) (a : Action) : (w.act a).1.Sound := by
  constructor
  · exact roster_act_keeps h.roster h.roster.effect a
  · cases a with
    | ask r now =>
      show (w.commit (w.roster.ask now r)).1.feed.Sound
      unfold commit tell
      cases (w.roster.ask now r).event with
      | none => exact h.feed
      | some e => exact h.feed.publish e.line
    | subscribe =>
      show w.subscribe.1.feed.Sound
      unfold subscribe
      split
      · exact h.feed
      · rename_i hs
        exact h.feed.subscribe hs
    | sendTo n line => exact h.feed.modify (fun _ => Mailbox.id_offer) (fun _ hm => hm.offer) n
    | remove n =>
      exact h.feed.modify (g := ({ · with listed := false })) (fun _ => rfl) (fun _ hm => hm) n
    | take n count =>
      refine h.feed.modify (g := fun m => { m with queue := m.queue.drop count })
        (fun _ => rfl) ?_ n
      intro m hm hh
      show m.queue.drop count = []
      rw [hm hh, List.drop_nil]
    | drain n =>
      exact h.feed.modify (g := ({ · with queue := [] })) (fun _ => rfl) (fun _ _ _ => rfl) n
    | drop n =>
      exact h.feed.modify (g := ({ · with held := false, queue := [] })) (fun _ => rfl)
        (fun _ _ _ => rfl) n

theorem Sound.run {w : Watch} (h : w.Sound) (as : List Action) : (w.run as).1.Sound :=
  run_keeps (fun _ a h => h.act a) as w h

/-- **Every watch that a run leads to is sound.** -/
theorem sound_run (capacity limit : Nat) (as : List Action) :
    ((Watch.new capacity limit).run as).1.Sound :=
  (sound_new capacity limit).run as

/-! ### Letters to an observer -/

/-- What is addressed to an observer: an event, as to all of them, or a reply. -/
inductive Letter where
  | event (e : Event)
  | reply (line : String)
  deriving DecidableEq

/-- The line that a letter is. -/
def Letter.line : Letter → String
  | .event e => e.line
  | .reply line => line

/-- The event that a letter is, if it is one. -/
def Letter.event? : Letter → Option Event
  | .event e => some e
  | .reply _ => none

/-- What a step addresses to an observer. -/
def Step.letter? (n : Nat) (s : Step) : Option Letter :=
  match s.action with
  | .ask _ _ => s.event?.map .event
  | .sendTo k line => if k = n then some (.reply line) else none
  | _ => none

/-- What is addressed to an observer during a run, in order. -/
def letters (n : Nat) (ss : List Step) : List Letter := ss.filterMap (·.letter? n)

/-- The events in the letters to an observer are those of the run. -/
theorem events_letters (n : Nat) (ss : List Step) :
    (letters n ss).filterMap Letter.event? = events ss := by
  rw [letters, List.filterMap_filterMap, events]
  congr 1
  funext s
  obtain ⟨w, a⟩ := s
  cases a with
  | ask r now =>
    show (Option.map Letter.event _).bind Letter.event? = _
    cases Step.event? ⟨w, .ask r now⟩ <;> rfl
  | sendTo k line =>
    show (if k = n then some (Letter.reply line) else none).bind Letter.event? = none
    split <;> rfl
  | subscribe | remove | take | drain | drop => rfl

theorem mem_events_iff {n : Nat} {ss : List Step} {e : Event} :
    e ∈ events ss ↔ .event e ∈ letters n ss := by
  rw [← events_letters n, List.mem_filterMap]
  constructor
  · rintro ⟨l, hl, he⟩
    cases l with
    | event e' =>
      obtain rfl := Option.some.inj he
      exact hl
    | reply line => cases he
  · intro he
    exact ⟨_, he, rfl⟩

theorem feed_act_ask (w : Watch) (r : Roster.Request) (now : Instant) :
    (w.act (.ask r now)).1.feed =
      (w.roster.ask now r).event.elim w.feed fun e => w.feed.publish e.line := by
  show (w.commit (w.roster.ask now r)).1.feed = _
  unfold commit tell
  cases (w.roster.ask now r).event <;> rfl

/-- A subscription that is refused leaves the watch as it is. -/
theorem subscribe_of_error {w : Watch} {p : Problem} (h : w.subscribe.2 = .error p) :
    w.subscribe.1 = w := by
  unfold subscribe at h ⊢
  split at h
  · rfl
  · cases h

theorem feed_subscribe {w : Watch} {n : Nat} (h : w.subscribe.2 = .ok n) :
    w.feed.subscribe? w.initialLine = some (w.subscribe.1.feed, n) := by
  unfold subscribe at h ⊢
  split at h
  · cases h
  · rename_i hs
    rw [hs]
    simp only [Except.ok.injEq] at h
    rw [h]

end SessionWatch.Watch
