/-
# The budget of connections

A connection counts itself in, looks at what was counted before, and counts
itself out again if there was no room; one that was let in counts itself out
once, however it ends. Between any two of these anything may happen: other
connections come, go, and are served.

Whether a connection is let in is settled when it counts itself in. So at any
time the counter is made of those that are let in and those that are refused
and have not counted themselves out yet.

Key definitions: `Connection.Step.Accounts`, `Stake`, `Place`, `Crowd`,
`Crowd.Move`, `Crowd.step`, `Crowd.run`, `Crowd.Effect`, `Crowd.Balanced`.
Key theorems: `Connection.accounts_receive`, `Crowd.effect_step`,
`Crowd.Balanced.step`, `Crowd.Balanced.run`, `Crowd.Balanced.serves`,
`connection_budget`.
-/
import SessionWatch.Proofs.Connection.Course

namespace SessionWatch

variable {σ : Type}

/-! ### Counting out -/

/-- A connection that ends counts itself out once, and one that goes on does not. -/
def Connection.Step.Accounts (s : Connection.Step σ) (d : Daemon σ) : Prop :=
  s.daemon.slots = if s.connection = .closed then d.slots.countOut else d.slots

/-- To carry out a command changes nothing about the counter. -/
theorem Daemon.slots_carryOut (outside : Outside σ) (setup : Setup) (d : Daemon σ) (c : Command) :
    (d.carryOut outside setup c).daemon.slots = d.slots := by
  cases c with
  | stop t =>
    simp only [carryOut]
    split <;> rfl
  | _ => rfl

theorem Daemon.slots_answer (outside : Outside σ) (setup : Setup) (d : Daemon σ) (line : Bytes) :
    (d.answer outside setup line).daemon.slots = d.slots := by
  unfold answer
  split
  · rfl
  · split
    · rfl
    · exact slots_carryOut outside setup d _

namespace Connection

variable (outside : Outside σ) (setup : Daemon.Setup) {d : Daemon σ}

/-- The end of a connection that nothing can be written on, or nothing be read from. -/
def hangUp (d : Daemon σ) : Connection → Step σ
  | .requests _ => finish d []
  | .observing id => stopObserving id d
  | .closed => { connection := .closed, written := [], daemon := d }

theorem accounts_finish {d' : Daemon σ} (same : d'.slots = d.slots) (written : List String) :
    (finish d' written).Accounts d := by
  simp [Step.Accounts, finish, same]

theorem accounts_stopObserving {d' : Daemon σ} (same : d'.slots = d.slots) (id : Nat) :
    (stopObserving id d').Accounts d := by
  simp [Step.Accounts, stopObserving, finish, same]

theorem accounts_receiveLine (served : Nat) (line : Bytes) :
    (receiveLine outside setup served line d).Accounts d := by
  unfold receiveLine
  split
  · rfl
  · split
    · exact accounts_finish rfl _
    · rfl
  · exact Daemon.slots_carryOut outside setup d _

theorem accounts_observeLine (id : Nat) (line : Bytes) :
    (observeLine outside setup id line d).Accounts d := by
  have same := d.slots_answer outside setup line
  rw [Course.observeLine_eq]
  dsimp only
  split
  · exact same
  · exact accounts_stopObserving same id

theorem arrive_closed_iff (d : Daemon σ) :
    (arrive d).connection = .closed ↔ d.slots.max ≤ d.slots.active := by
  by_cases room : d.slots.active < d.slots.max
  · simp [arrive, Slots.countIn, room]
  · simp [arrive, Slots.countIn, finish, room, Nat.le_of_not_lt room]

/-- **However a connection ends that something is read on, it counts itself out once.** -/
theorem accounts_receive {c : Connection} (open_ : c ≠ .closed) (r : Received) :
    (c.receive outside setup r d).Accounts d := by
  cases c with
  | closed => exact absurd rfl open_
  | requests served =>
    cases r with
    | line line => exact accounts_receiveLine outside setup served line
    | ended => exact accounts_finish rfl []
    | refused p => cases p <;> exact accounts_finish rfl _
    | waiting => rfl
  | observing id =>
    cases r with
    | line line => exact accounts_observeLine outside setup id line
    | ended | refused p => exact accounts_stopObserving rfl id
    | waiting => rfl

theorem accounts_flush {c : Connection} (open_ : c ≠ .closed) : (c.flush d).Accounts d := by
  cases c with
  | closed => exact absurd rfl open_
  | requests served => rfl
  | observing id =>
    unfold flush
    dsimp only
    split
    · rfl
    · exact accounts_stopObserving rfl id

theorem accounts_hangUp {c : Connection} (open_ : c ≠ .closed) : (c.hangUp d).Accounts d := by
  cases c with
  | closed => exact absurd rfl open_
  | requests served => exact accounts_finish rfl []
  | observing id => exact accounts_stopObserving rfl id

end Connection

/-! ### A crowd of connections -/

/-- What a connection has in the counter. -/
inductive Stake where
  /-- A place: it is let in, and has not ended. -/
  | place
  /-- A count that it has to give back: it is refused. -/
  | refusal
  | nothing
  deriving DecidableEq

/-- What a connection is in the middle of. -/
inductive Place where
  /-- It has counted itself in behind so many. -/
  | counted (before : Nat)
  /-- It has found no room. -/
  | refused
  | inside (c : Connection)
  /-- It has ended, and is still counted. -/
  | leaving
  | gone
  deriving DecidableEq

/-- What a connection has in the counter, which may go up to a bound. -/
def Place.stake (max : Nat) : Place → Stake
  | .counted before => if before < max then .place else .refusal
  | .refused => .refusal
  | .inside _ | .leaving => .place
  | .gone => .nothing

namespace Place

variable {max before : Nat}

theorem stake_of_room (room : before < max) : (counted before).stake max = .place := if_pos room

theorem stake_of_no_room (full : ¬before < max) : (counted before).stake max = .refusal :=
  if_neg full

@[simp] theorem stake_gone (max : Nat) : gone.stake max = .nothing := rfl

theorem stake_eq_nothing_iff {p : Place} : p.stake max = .nothing ↔ p = .gone := by
  cases p with
  | counted before => by_cases room : before < max <;> simp [stake, room]
  | refused | inside c | leaving | gone => simp [stake]

end Place

/-- A daemon and its connections, in the order in which they arrived. -/
structure Crowd (σ : Type) where
  daemon : Daemon σ
  places : List Place := []

namespace Crowd

/-- What can happen at a time. -/
inductive Move (σ : Type) where
  /-- A new connection counts itself in. -/
  | arrive
  /-- A connection looks whether there was room for it. -/
  | compare (k : Nat)
  /-- Something is read on a connection. -/
  | receive (k : Nat) (r : Received)
  /-- An observer's connection writes what it got. -/
  | flush (k : Nat)
  /-- A connection breaks. -/
  | hangUp (k : Nat)
  /-- A connection that was refused or has ended counts itself out. -/
  | countOut (k : Nat)
  /-- Something else happens to the daemon. -/
  | elsewhere (watch : Watch) (outer : σ)

/-- A new connection counts itself in. -/
def Move.isArrival : Move σ → Bool
  | .arrive => true
  | _ => false

/-- The crowd with another counter, and the connections that are counted in it. -/
def recount (t : Crowd σ) (slots : Slots) (places : List Place) : Crowd σ :=
  ⟨{ t.daemon with slots := slots }, places⟩

/-- What a connection does on its own account, without the counting. -/
def follow (t : Crowd σ) (k : Nat) (s : Connection.Step σ) : Crowd σ where
  daemon := { s.daemon with slots := t.daemon.slots }
  places := t.places.set k (if s.connection = .closed then .leaving else .inside s.connection)

variable (outside : Outside σ) (setup : Daemon.Setup)

/-- Lets a move take place; a connection that is in the middle of something else does not move. -/
def step (t : Crowd σ) : Move σ → Crowd σ
  | .arrive => t.recount t.daemon.slots.countIn.1 (t.places ++ [.counted t.daemon.slots.active])
  | .compare k =>
    match t.places[k]? with
    | some (.counted before) =>
      let place := if before < t.daemon.slots.max then .inside (.requests 0) else .refused
      { t with places := t.places.set k place }
    | _ => t
  | .receive k r =>
    match t.places[k]? with
    | some (.inside c) => t.follow k (c.receive outside setup r t.daemon)
    | _ => t
  | .flush k =>
    match t.places[k]? with
    | some (.inside c) => t.follow k (c.flush t.daemon)
    | _ => t
  | .hangUp k =>
    match t.places[k]? with
    | some (.inside c) => t.follow k (c.hangUp t.daemon)
    | _ => t
  | .countOut k =>
    match t.places[k]? with
    | some .refused | some .leaving =>
      t.recount t.daemon.slots.countOut (t.places.set k .gone)
    | _ => t
  | .elsewhere watch outer =>
    { t with daemon := { t.daemon with watch := watch, outer := outer } }

/-- The crowd after some moves. -/
def run (t : Crowd σ) (ms : List (Move σ)) : Crowd σ := ms.foldl (step outside setup) t

/-- The connections that have this in the counter. -/
def holders (t : Crowd σ) (stake : Stake) : Nat :=
  t.places.countP fun p => p.stake t.daemon.slots.max = stake

/-- The connections that are let in and have not ended. -/
def admitted (t : Crowd σ) : Nat := t.holders .place

/-- The refusals in progress. -/
def refusing (t : Crowd σ) : Nat := t.holders .refusal

/-! ### What a move does -/

/-- A connection arrives, or one connection goes on and keeps what it has in the counter, or
gives it back. -/
inductive Effect (t : Crowd σ) (m : Move σ) (t' : Crowd σ) : Prop where
  | arrived (move : m = .arrive) (slots : t'.daemon.slots = t.daemon.slots.countIn.1)
      (places : t'.places = t.places ++ [.counted t.daemon.slots.active])
  | still (slots : t'.daemon.slots = t.daemon.slots) (places : t'.places = t.places)
  | moved (k : Nat) (p p' : Place) (there : t.places[k]? = some p)
      (slots : t'.daemon.slots = t.daemon.slots) (places : t'.places = t.places.set k p')
      (same : p'.stake t.daemon.slots.max = p.stake t.daemon.slots.max)
      (open_ : p' ≠ .inside .closed)
  | left (k : Nat) (p : Place) (there : t.places[k]? = some p)
      (slots : t'.daemon.slots = t.daemon.slots.countOut)
      (places : t'.places = t.places.set k .gone)
      (held : p.stake t.daemon.slots.max ≠ .nothing)

variable {outside setup} {t t' : Crowd σ} {m : Move σ}

theorem effect_follow {k : Nat} {c : Connection} (there : t.places[k]? = some (.inside c))
    (s : Connection.Step σ) (m : Move σ) : Effect t m (t.follow k s) := by
  refine .moved k (.inside c) _ there rfl rfl ?_ ?_
  · split <;> rfl
  · split
    · exact nofun
    · simpa using ‹_›

theorem effect_step (t : Crowd σ) (m : Move σ) : Effect t m (t.step outside setup m) := by
  cases m with
  | arrive => exact .arrived rfl rfl rfl
  | compare k =>
    simp only [step]
    split
    · next before there =>
      refine .moved k (.counted before) _ there rfl rfl ?_ ?_
      · by_cases room : before < t.daemon.slots.max <;> simp [Place.stake, room]
      · split <;> simp
    · exact .still rfl rfl
  | receive k r =>
    simp only [step]
    split
    · exact effect_follow ‹_› _ _
    · exact .still rfl rfl
  | flush k =>
    simp only [step]
    split
    · exact effect_follow ‹_› _ _
    · exact .still rfl rfl
  | hangUp k =>
    simp only [step]
    split
    · exact effect_follow ‹_› _ _
    · exact .still rfl rfl
  | countOut k =>
    simp only [step]
    split
    · exact .left k .refused ‹_› rfl rfl nofun
    · exact .left k .leaving ‹_› rfl rfl nofun
    · exact .still rfl rfl
  | elsewhere watch outer => exact .still rfl rfl

theorem Effect.max_eq (e : Effect t m t') : t'.daemon.slots.max = t.daemon.slots.max := by
  cases e with
  | arrived move slots | still slots | moved k p p' there slots | left k p there slots =>
    rw [slots]
    try rfl

/-- A connection keeps what it has in the counter until it gives it back. -/
theorem Effect.place (e : Effect t m t') {k : Nat} {p : Place} (there : t.places[k]? = some p) :
    ∃ p', t'.places[k]? = some p' ∧
      (p' = .gone ∨ p'.stake t.daemon.slots.max = p.stake t.daemon.slots.max) := by
  have inside : k < t.places.length := (List.getElem?_eq_some_iff.mp there).1
  cases e with
  | arrived move slots places =>
    refine ⟨p, ?_, .inr rfl⟩
    rw [places, List.getElem?_append_left inside, there]
  | still slots places => exact ⟨p, by rw [places, there], .inr rfl⟩
  | moved k' q q' there' slots places same =>
    rw [places]
    by_cases h : k' = k
    · subst h
      obtain rfl : q = p := Option.some.inj (there'.symm.trans there)
      exact ⟨q', List.getElem?_set_self inside, .inr same⟩
    · exact ⟨p, by rw [List.getElem?_set_ne h, there], .inr rfl⟩
  | left k' q there' slots places =>
    rw [places]
    by_cases h : k' = k
    · subst h
      exact ⟨.gone, List.getElem?_set_self inside, .inl rfl⟩
    · exact ⟨p, by rw [List.getElem?_set_ne h, there], .inr rfl⟩

/-! ### The balance -/

theorem holders_append (stake : Stake) (slots : t'.daemon.slots.max = t.daemon.slots.max)
    {p : Place} (places : t'.places = t.places ++ [p]) :
    t'.holders stake =
      t.holders stake + if p.stake t.daemon.slots.max = stake then 1 else 0 := by
  simp [holders, slots, places, List.countP_singleton]

theorem holders_set (stake : Stake) (slots : t'.daemon.slots.max = t.daemon.slots.max)
    {k : Nat} {p p' : Place} (there : t.places[k]? = some p) (places : t'.places = t.places.set k p') :
    t'.holders stake + (if p.stake t.daemon.slots.max = stake then 1 else 0) =
      t.holders stake + if p'.stake t.daemon.slots.max = stake then 1 else 0 := by
  obtain ⟨inside, rfl⟩ := List.getElem?_eq_some_iff.mp there
  let holds (p : Place) : Bool := p.stake t.daemon.slots.max = stake
  have counted : (t.places.set k p').countP holds = (t.places.countP holds -
      if holds t.places[k] then 1 else 0) + if holds p' then 1 else 0 :=
    List.countP_set inside
  have positive : holds t.places[k] = true → 0 < t.places.countP holds := fun h =>
    List.countP_pos_iff.mpr ⟨_, List.getElem_mem inside, h⟩
  have after : t'.holders stake = (t.places.set k p').countP holds := by
    rw [holders, slots, places]
  have before : t.holders stake = t.places.countP holds := rfl
  simp only [holds, decide_eq_true_eq] at counted positive after before
  rw [after, before, counted]
  split
  · have := positive ‹_›
    omega
  · omega

/-- What is counted is what is held, and no more than the bound is let in. -/
structure Balanced (t : Crowd σ) : Prop where
  active : t.daemon.slots.active = t.admitted + t.refusing
  bound : t.admitted ≤ t.daemon.slots.max
  open_ : .inside .closed ∉ t.places

theorem balanced_of_empty (empty : t.places = []) (active : t.daemon.slots.active = 0) :
    t.Balanced where
  active := by simp [active, admitted, refusing, holders, empty]
  bound := by simp [admitted, holders, empty]
  open_ := by simp [empty]

/-- **A move keeps the balance.** -/
theorem Balanced.step (h : t.Balanced) (e : Effect t m t') : t'.Balanced := by
  have ⟨active, bound, open_⟩ := h
  have max := e.max_eq
  cases e with
  | arrived move slots places =>
    have now : t'.daemon.slots.active = t.daemon.slots.active + 1 := by rw [slots]; rfl
    have admitted : t'.admitted = t.admitted + _ := holders_append .place max places
    have refusing : t'.refusing = t.refusing + _ := holders_append .refusal max places
    have closed : .inside .closed ∉ t'.places := by simpa [places] using open_
    by_cases room : t.daemon.slots.active < t.daemon.slots.max
    · simp only [Place.stake_of_room room, if_true, reduceCtorEq, if_false] at admitted refusing
      exact ⟨by omega, by omega, closed⟩
    · simp only [Place.stake_of_no_room room, if_true, reduceCtorEq, if_false] at admitted refusing
      exact ⟨by omega, by omega, closed⟩
  | still slots places =>
    have same (stake : Stake) : t'.holders stake = t.holders stake := by
      rw [holders, slots, places, holders]
    have in_ : t'.admitted = t.admitted := same .place
    have out : t'.refusing = t.refusing := same .refusal
    exact ⟨by rw [slots, in_, out, active], by rw [max, in_]; exact bound, places ▸ open_⟩
  | moved k p p' there slots places same closed =>
    have in_ : t'.admitted = t.admitted := by
      have := holders_set .place max there places
      rw [same] at this
      exact Nat.add_right_cancel this
    have out : t'.refusing = t.refusing := by
      have := holders_set .refusal max there places
      rw [same] at this
      exact Nat.add_right_cancel this
    refine ⟨by rw [slots, in_, out, active], by rw [max, in_]; exact bound, ?_⟩
    rw [places]
    exact fun mem => (List.mem_or_eq_of_mem_set mem).elim open_ fun h => closed h.symm
  | left k p there slots places held =>
    have now : t'.daemon.slots.active = t.daemon.slots.active - 1 := by rw [slots]; rfl
    have admitted : t'.admitted + _ = t.admitted + _ := holders_set .place max there places
    have refusing : t'.refusing + _ = t.refusing + _ := holders_set .refusal max there places
    have closed : .inside .closed ∉ t'.places := by
      rw [places]
      exact fun mem => (List.mem_or_eq_of_mem_set mem).elim open_ nofun
    cases stake : p.stake t.daemon.slots.max with
    | place =>
      simp only [stake, Place.stake_gone, if_true, reduceCtorEq, if_false] at admitted refusing
      exact ⟨by omega, by omega, closed⟩
    | refusal =>
      simp only [stake, Place.stake_gone, if_true, reduceCtorEq, if_false] at admitted refusing
      exact ⟨by omega, by omega, closed⟩
    | nothing => exact absurd stake held

/-- Nobody is refused while there is room. -/
theorem Effect.refusing_le (e : Effect t m t')
    (room : m.isArrival = true → t.daemon.slots.active < t.daemon.slots.max) :
    t'.refusing ≤ t.refusing := by
  have max := e.max_eq
  cases e with
  | arrived move slots places =>
    have one : t'.refusing = t.refusing + _ := holders_append .refusal max places
    rw [Place.stake_of_room (room (by rw [move]; rfl)), if_neg nofun] at one
    omega
  | still slots places =>
    have same : t'.refusing = t.refusing := by rw [refusing, holders, slots, places]; rfl
    omega
  | moved k p p' there slots places same =>
    have one : t'.refusing + _ = t.refusing + _ := holders_set .refusal max there places
    rw [same] at one
    omega
  | left k p there slots places =>
    have one : t'.refusing + _ = t.refusing + _ := holders_set .refusal max there places
    simp only [Place.stake_gone, reduceCtorEq, if_false] at one
    omega

/-- Only an arrival is counted. -/
theorem Effect.active_le (e : Effect t m t') : t'.daemon.slots.active ≤
    t.daemon.slots.active + if m.isArrival then 1 else 0 := by
  cases e with
  | arrived move slots =>
    rw [slots, move]
    exact Nat.le_refl _
  | still slots | moved k p p' there slots =>
    rw [slots]
    exact Nat.le_add_right _ _
  | left k p there slots =>
    have less : t'.daemon.slots.active = t.daemon.slots.active - 1 := by rw [slots]; rfl
    omega

/-- What is given back was counted. -/
theorem Balanced.active_pos (h : t.Balanced) {k : Nat} {p : Place} (there : t.places[k]? = some p)
    (held : p.stake t.daemon.slots.max ≠ .nothing) : 0 < t.daemon.slots.active := by
  have mem : p ∈ t.places := List.mem_of_getElem? there
  have holds : 0 < t.holders (p.stake t.daemon.slots.max) :=
    List.countP_pos_iff.mpr ⟨p, mem, by simp⟩
  have active : t.daemon.slots.active = t.holders .place + t.holders .refusal := h.active
  cases stake : p.stake t.daemon.slots.max with
  | place =>
    rw [stake] at holds
    omega
  | refusal =>
    rw [stake] at holds
    omega
  | nothing => exact absurd stake held

/-- Nobody is counted once all are gone. -/
theorem Balanced.active_of_gone (h : t.Balanced) (gone : ∀ p ∈ t.places, p = .gone) :
    t.daemon.slots.active = 0 := by
  have none (stake : Stake) (some_ : stake ≠ .nothing) : t.holders stake = 0 := by
    refine List.countP_eq_zero.mpr fun p mem => ?_
    rw [gone p mem, Place.stake_gone, decide_eq_true_eq]
    exact some_.symm
  have admitted : t.admitted = 0 := none .place nofun
  have refusing : t.refusing = 0 := none .refusal nofun
  rw [h.active, admitted, refusing]

/-! ### Runs -/

section run

variable (outside setup)

theorem run_append (t : Crowd σ) (ms ns : List (Move σ)) :
    t.run outside setup (ms ++ ns) = (t.run outside setup ms).run outside setup ns :=
  List.foldl_append

/-- **The balance is kept whatever happens.** -/
theorem Balanced.run : ∀ (ms : List (Move σ)) {t : Crowd σ}, t.Balanced →
    (t.run outside setup ms).Balanced
  | [], _, h => h
  | m :: ms, t, h => Balanced.run ms (h.step (effect_step t m))

theorem max_run : ∀ (ms : List (Move σ)) (t : Crowd σ),
    (t.run outside setup ms).daemon.slots.max = t.daemon.slots.max
  | [], _ => rfl
  | m :: ms, t => (max_run ms _).trans (effect_step t m).max_eq

/-- A connection that has counted itself in has what it has in the counter until it gives it
back. -/
theorem place_run : ∀ (ms : List (Move σ)) {t : Crowd σ} {k : Nat} {p : Place},
    t.places[k]? = some p → ∃ p', (t.run outside setup ms).places[k]? = some p' ∧
      (p' = .gone ∨ p'.stake t.daemon.slots.max = p.stake t.daemon.slots.max)
  | [], _, _, p, there => ⟨p, there, .inr rfl⟩
  | m :: ms, t, k, p, there => by
    have effect : Effect t m (t.step outside setup m) := effect_step t m
    obtain ⟨q, there', next⟩ := effect.place there
    obtain ⟨p', there'', later⟩ := place_run ms there'
    rw [effect.max_eq] at later
    refine ⟨p', there'', ?_⟩
    -- a connection that is gone holds nothing, and nothing else does
    rcases later with gone | same
    · exact .inl gone
    · rcases next with rfl | next
      · exact .inl (Place.stake_eq_nothing_iff.mp same)
      · exact .inr (same.trans next)

/-! ### Arrivals -/

/-- A connection that arrives while nobody is being refused is refused if and only if as many as
the bound allows are let in, whatever happens before it finds out. -/
theorem Balanced.arrival (h : t.Balanced) (calm : t.refusing = 0) (later : List (Move σ)) :
    ∃ p, ((t.step outside setup .arrive).run outside setup later).places[t.places.length]? = some p ∧
      (p = .gone ∨ (p.stake t.daemon.slots.max = .refusal ↔ t.admitted = t.daemon.slots.max)) := by
  have there : (t.step outside setup .arrive).places[t.places.length]? =
      some (.counted t.daemon.slots.active) := List.getElem?_concat_length
  have active : t.daemon.slots.active = t.admitted := by
    rw [h.active, calm, Nat.add_zero]
  have bound := h.bound
  have settled : (Place.counted t.daemon.slots.active).stake t.daemon.slots.max = .refusal ↔
      t.admitted = t.daemon.slots.max := by
    by_cases room : t.daemon.slots.active < t.daemon.slots.max
    · rw [Place.stake_of_room room]
      constructor
      · exact nofun
      · omega
    · rw [Place.stake_of_no_room room]
      constructor
      · omega
      · exact fun _ => rfl
  obtain ⟨p, there', gone | same⟩ := place_run outside setup later there
  · exact ⟨p, there', .inl gone⟩
  · have kept : p.stake t.daemon.slots.max =
        (Place.counted t.daemon.slots.active).stake t.daemon.slots.max := same
    exact ⟨p, there', .inr (by rw [kept, settled])⟩

/-- A connection that arrives and looks at once. -/
theorem run_arrive_compare (t : Crowd σ) :
    t.run outside setup [.arrive, .compare t.places.length] =
      t.recount t.daemon.slots.countIn.1 (t.places ++
        [if t.daemon.slots.active < t.daemon.slots.max then .inside (.requests 0) else .refused]) := by
  have there : (t.places ++ [.counted t.daemon.slots.active])[t.places.length]? =
      some (.counted t.daemon.slots.active) := List.getElem?_concat_length
  show (t.recount t.daemon.slots.countIn.1 (t.places ++ [.counted t.daemon.slots.active])).step
    outside setup (.compare t.places.length) = _
  simp only [step, recount, there]
  rw [List.set_append_right _ _ (Nat.le_refl _), Nat.sub_self, List.set_cons_zero]
  rfl

/-- So many connections that arrive one behind the other, each looking at once. -/
def admissions (k n : Nat) : List (Move σ) :=
  (List.range n).flatMap fun i => [.arrive, .compare (k + i)]

/-- As many connections are let in as there is room for. -/
theorem run_admissions (t : Crowd σ) : ∀ n, t.daemon.slots.active + n ≤ t.daemon.slots.max →
    t.run outside setup (admissions t.places.length n) =
      t.recount ⟨t.daemon.slots.max, t.daemon.slots.active + n⟩
        (t.places ++ List.replicate n (.inside (.requests 0)))
  | 0, _ => by simp [admissions, run, recount]
  | n + 1, room => by
    have free : t.daemon.slots.active + n < t.daemon.slots.max := by omega
    have more : (admissions t.places.length (n + 1) : List (Move σ)) =
        admissions t.places.length n ++ [.arrive, .compare (t.places.length + n)] := by
      simp [admissions, List.range_succ]
    have count : (t.places ++ List.replicate n (Place.inside (.requests 0))).length =
        t.places.length + n := by simp
    have last := run_arrive_compare outside setup (t.recount
      ⟨t.daemon.slots.max, t.daemon.slots.active + n⟩
      (t.places ++ List.replicate n (.inside (.requests 0))))
    rw [more, run_append, run_admissions t n (by omega)]
    simp only [recount, count, free, if_true] at last ⊢
    rw [last]
    simp [Slots.countIn, List.replicate_succ', Nat.add_assoc]

/-- After few arrivals nobody is refused, whatever else happens. -/
theorem refusing_run : ∀ (ms : List (Move σ)) {t : Crowd σ}, t.refusing = 0 →
    t.daemon.slots.active + ms.countP Move.isArrival ≤ t.daemon.slots.max →
    (t.run outside setup ms).refusing = 0
  | [], _, calm, _ => calm
  | m :: ms, t, calm, few => by
    -- what is active and the arrivals to come stay within the bound together
    have effect : Effect t m (t.step outside setup m) := effect_step t m
    have count := List.countP_cons (p := Move.isArrival) (a := m) (l := ms)
    have room : m.isArrival = true → t.daemon.slots.active < t.daemon.slots.max := by
      intro arrival
      rw [count, arrival, if_pos rfl] at few
      omega
    have active := effect.active_le
    have max := effect.max_eq
    refine refusing_run ms (Nat.le_zero.mp (calm ▸ effect.refusing_le room)) ?_
    omega

/-! ### Whole steps -/

/-- What a connection does comes to a move of its own and, if it ends, to counting itself out,
once. -/
def Serves (t : Crowd σ) (k : Nat) (m : Move σ) (s : Connection.Step σ) : Prop :=
  s.Accounts t.daemon ∧ t.run outside setup [m, .countOut k] =
    ⟨s.daemon, t.places.set k (if s.connection = .closed then .gone else .inside s.connection)⟩

theorem serves_of_follow {k : Nat} {p : Place} (there : t.places[k]? = some p)
    {s : Connection.Step σ} (accounts : s.Accounts t.daemon)
    (own : t.step outside setup m = t.follow k s) : t.Serves outside setup k m s := by
  have inside : k < t.places.length := (List.getElem?_eq_some_iff.mp there).1
  refine ⟨accounts, ?_⟩
  have parts : t.run outside setup [m, .countOut k] =
      (t.follow k s).step outside setup (.countOut k) := by rw [← own]; rfl
  rw [parts]
  unfold Connection.Step.Accounts at accounts
  by_cases closed : s.connection = .closed
  · have leaving : (t.follow k s).places[k]? = some .leaving := by
      simp [follow, closed, inside]
    rw [if_pos closed] at accounts
    simp only [step, leaving]
    simp [recount, follow, closed, ← accounts]
  · have goesOn : (t.follow k s).places[k]? = some (.inside s.connection) := by
      simp [follow, closed, inside]
    rw [if_neg closed] at accounts
    simp only [step, goesOn]
    simp [follow, closed, ← accounts]

/-- **However a connection goes on or ends, it counts itself out at its end and only then.** -/
theorem Balanced.serves (h : t.Balanced) {k : Nat} {c : Connection}
    (there : t.places[k]? = some (.inside c)) :
    (∀ r, t.Serves outside setup k (.receive k r) (c.receive outside setup r t.daemon)) ∧
      t.Serves outside setup k (.flush k) (c.flush t.daemon) ∧
      t.Serves outside setup k (.hangUp k) (c.hangUp t.daemon) := by
  have open_ : c ≠ .closed := by
    rintro rfl
    exact h.open_ (List.mem_of_getElem? there)
  refine ⟨fun r => ?_, ?_, ?_⟩
  · exact serves_of_follow outside setup there (Connection.accounts_receive outside setup open_ r)
      (by simp only [Crowd.step, there])
  · exact serves_of_follow outside setup there (Connection.accounts_flush open_)
      (by simp only [Crowd.step, there])
  · exact serves_of_follow outside setup there (Connection.accounts_hangUp open_)
      (by simp only [Crowd.step, there])

/-- To count out gives back what was counted. -/
theorem Balanced.countOut (h : t.Balanced) {k : Nat} {p : Place} (there : t.places[k]? = some p)
    (due : p = .refused ∨ p = .leaving) :
    (t.step outside setup (.countOut k)).daemon.slots.active + 1 = t.daemon.slots.active ∧
      (t.step outside setup (.countOut k)).places[k]? = some .gone := by
  have inside : k < t.places.length := (List.getElem?_eq_some_iff.mp there).1
  have held : p.stake t.daemon.slots.max ≠ .nothing := by
    rcases due with rfl | rfl <;> exact nofun
  have positive := h.active_pos there held
  have result : t.step outside setup (.countOut k) =
      t.recount t.daemon.slots.countOut (t.places.set k .gone) := by
    rcases due with rfl | rfl <;> simp only [Crowd.step, there]
  rw [result]
  constructor
  · exact Nat.sub_add_cancel positive
  · exact List.getElem?_set_self inside

/-- What a connection does that arrives comes to counting in, looking, and counting out if there
was no room. -/
theorem run_arrive (t : Crowd σ) :
    t.run outside setup [.arrive, .compare t.places.length, .countOut t.places.length] =
      ⟨(Connection.arrive t.daemon).daemon, t.places ++
        [if (Connection.arrive t.daemon).connection = .closed then .gone
          else .inside (Connection.arrive t.daemon).connection]⟩ := by
  have before := run_arrive_compare outside setup t
  have parts : ([.arrive, .compare t.places.length, .countOut t.places.length] : List (Move σ)) =
      [.arrive, .compare t.places.length] ++ [.countOut t.places.length] := rfl
  rw [parts, run_append, before]
  by_cases room : t.daemon.slots.active < t.daemon.slots.max
  · simp [run, step, recount, Connection.arrive, Slots.countIn, room]
  · simp [run, step, recount, Connection.arrive, Connection.finish, Slots.countIn, Slots.countOut,
      room]

end run

end Crowd

/-! ### The budget -/

/-- **The budget of connections is kept.** In whatever order connections count themselves in, look,
are served, end and count themselves out, the counter is the number of those that are let in and
have not ended together with the refusals in progress, and no more are let in than the bound. What
is counted out was counted, and a connection counts itself out once, however it ends. While no
refusal is in progress a connection is refused if and only if there are as many as the bound
allows; once all are gone there is room for as many again. -/
theorem connection_budget (outside : Outside σ) (setup : Daemon.Setup) (config : Config) (outer : σ)
    (moves : List (Crowd.Move σ)) :
    let t := ({ daemon := .new config.normalized outer } : Crowd σ).run outside setup moves
    let slots := t.daemon.slots
    (slots.max = config.normalized.server.maxConnections ∧ 1 ≤ slots.max) ∧
    (slots.active = t.admitted + t.refusing ∧ t.admitted ≤ slots.max) ∧
    (∀ k p, t.places[k]? = some p → p = .refused ∨ p = .leaving →
      (t.step outside setup (.countOut k)).daemon.slots.active + 1 = slots.active ∧
        (t.step outside setup (.countOut k)).places[k]? = some .gone) ∧
    (∀ k c, t.places[k]? = some (.inside c) →
      (∀ r, t.Serves outside setup k (.receive k r) (c.receive outside setup r t.daemon)) ∧
        t.Serves outside setup k (.flush k) (c.flush t.daemon) ∧
        t.Serves outside setup k (.hangUp k) (c.hangUp t.daemon)) ∧
    (t.run outside setup [.arrive, .compare t.places.length, .countOut t.places.length]).daemon =
      (Connection.arrive t.daemon).daemon ∧
    (t.refusing = 0 →
      ((Connection.arrive t.daemon).connection = .closed ↔ t.admitted = slots.max) ∧
      ∀ later, ∃ p, ((t.step outside setup .arrive).run outside setup later).places[t.places.length]? =
        some p ∧ (p = .gone ∨ (p.stake slots.max = .refusal ↔ t.admitted = slots.max))) ∧
    ((∀ p ∈ t.places, p = .gone) →
      (∀ later : List (Crowd.Move σ), later.countP Crowd.Move.isArrival ≤ slots.max →
        (t.run outside setup later).refusing = 0) ∧
      (t.run outside setup (Crowd.admissions t.places.length slots.max)).places =
        t.places ++ List.replicate slots.max (.inside (.requests 0))) := by
  intro t slots
  have same : slots.max = t.daemon.slots.max := rfl
  have max : slots.max = config.normalized.server.maxConnections :=
    Crowd.max_run outside setup moves _
  have one : 1 ≤ config.normalized.server.maxConnections := Nat.le_max_right _ _
  have balanced : t.Balanced :=
    (Crowd.balanced_of_empty rfl rfl).run outside setup moves
  refine ⟨⟨max, max ▸ one⟩, ⟨balanced.active, balanced.bound⟩,
    fun k p there due => balanced.countOut outside setup there due,
    fun k c there => balanced.serves outside setup there, ?_, fun calm => ⟨?_, ?_⟩,
    fun gone => ⟨fun later few => ?_, ?_⟩⟩
  · rw [Crowd.run_arrive]
  · rw [Connection.arrive_closed_iff]
    have active := balanced.active
    have bound := balanced.bound
    omega
  · exact balanced.arrival outside setup calm
  · have active := balanced.active_of_gone gone
    have balance := balanced.active
    exact Crowd.refusing_run outside setup later (by omega) (by omega)
  · have active := balanced.active_of_gone gone
    rw [Crowd.run_admissions outside setup t slots.max (by omega)]
    rfl

/-- With room for one, a connection that arrives while another one is let in is refused, and there
is room for one again once both are gone. -/
theorem connection_budget_one :
    let outside : Outside Unit := ⟨fun _ => (⟨⟨2024, 3, 1⟩, 43200, 0⟩, ()), fun _ _ _ _ => none,
      fun _ _ w => (.ok .waitingInput, w)⟩
    let setup : Daemon.Setup := ⟨{}, 1⟩
    let config : Config := { server := { maxConnections := 0 } }
    let new : Crowd Unit := { daemon := .new config.normalized () }
    let full := new.run outside setup [.arrive, .compare 0]
    let left := new.run outside setup
      [.arrive, .compare 0, .arrive, .hangUp 0, .compare 1, .countOut 1, .countOut 0]
    full.refusing = 0 ∧ (Connection.arrive full.daemon).connection = .closed ∧
      left.places = [.gone, .gone] ∧
      (left.run outside setup (Crowd.admissions 2 1)).places =
        [.gone, .gone, .inside (.requests 0)] := by
  intro outside setup config new full left
  have calm : full.refusing = 0 := rfl
  have gone : left.places = [.gone, .gone] := rfl
  obtain ⟨-, -, -, -, -, refused, -⟩ :=
    connection_budget outside setup config () [.arrive, .compare 0]
  obtain ⟨-, -, -, -, -, -, again⟩ := connection_budget outside setup config ()
    [.arrive, .compare 0, .arrive, .hangUp 0, .compare 1, .countOut 1, .countOut 0]
  refine ⟨calm, (refused calm).1.mpr rfl, gone, ?_⟩
  have all : ∀ p ∈ left.places, p = .gone := by
    rw [gone]
    decide
  exact (again all).2

end SessionWatch
