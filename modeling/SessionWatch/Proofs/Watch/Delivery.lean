/-
# What reaches an observer

An observer reads its mailbox whenever it likes, lets go of it whenever it
likes, and is taken off the list when a line does not go in or when it is
removed. Still there is never a gap: what it has read, and what it can still
read, is the line that it started from and then the first few of the lines
that were addressed to it, in order. As long as it is on the list and holds
its mailbox it is all of them, and once it is off the list there are no more.
It is taken off by its removal, and by a line for which there is no room or
nobody who could read it, and by nothing else.

A step does one of four things to a mailbox (`Handling`), and each of the
facts about runs is an induction over those.

Key definitions: `Watch.Step.taken`, `Watch.Step.arrivals`, `Watch.received`,
`Watch.Step.Cuts`, `Watch.Handling`.
Key theorems: `Watch.handled`, `Watch.arrivals_run`, `Watch.received_run`,
`Watch.lists_run_iff`, `Watch.delivery_gap_free`.
-/
import SessionWatch.Proofs.Roster.Announcement
import SessionWatch.Proofs.Watch.Bounds

namespace SessionWatch.Watch

/-! ### What an observer has and gets -/

/-- The lines in the mailbox of an observer. -/
def queue (n : Nat) (w : Watch) : List String := (w.feed.find? n).elim [] (·.queue)

/-- The lines that an observer can still read: those in its mailbox, if it holds it. -/
def readable (n : Nat) (w : Watch) : List String :=
  (w.feed.find? n).elim [] fun m => if m.held then m.queue else []

/-- The observer holds its mailbox. -/
def Holds (n : Nat) (w : Watch) : Prop := ∃ m, w.feed.find? n = some m ∧ m.held = true

/-- The observer is on the list of those that get lines. -/
def Lists (n : Nat) (w : Watch) : Prop := ∃ m, w.feed.find? n = some m ∧ m.listed = true

instance (n : Nat) (w : Watch) : Decidable (w.Holds n) :=
  decidable_of_iff ((w.feed.find? n).any (·.held) = true) (Option.any_eq_true _ _)

instance (n : Nat) (w : Watch) : Decidable (w.Lists n) :=
  decidable_of_iff ((w.feed.find? n).any (·.listed) = true) (Option.any_eq_true _ _)

/-- The lines that an observer takes out in a step. -/
def Step.taken (n : Nat) (s : Step) : List String :=
  match s.action, s.answer with
  | .take k _, .lines ls | .drain k, .lines ls => if k = n then ls else []
  | _, _ => []

/-- The lines that a step puts in the mailbox of an observer. -/
def Step.arrivals (n : Nat) (s : Step) : List String :=
  match s.action with
  | .take _ _ | .drain _ | .drop _ => []
  | _ => (s.after.queue n).drop (s.before.queue n).length

/-- The lines that an observer takes out during a run. -/
def taken (n : Nat) (ss : List Step) : List String := ss.flatMap (·.taken n)

/-- The lines that a run puts in the mailbox of an observer. -/
def arrivals (n : Nat) (ss : List Step) : List String := ss.flatMap (·.arrivals n)

/-- What an observer has taken out during a run and what it can still read after it. -/
def received (n : Nat) (w : Watch) (as : List Action) : List String :=
  taken n (w.steps as) ++ (w.run as).1.readable n

/-- The observer is removed, or something is addressed to it when it has let go of its mailbox or
when there are `room` lines in it, as many as fit. -/
def Step.Cuts (room n : Nat) (s : Step) : Prop :=
  s.action = .remove n ∨
    (s.letter? n ≠ none ∧ (s.before.Holds n → room ≤ (s.before.queue n).length))

/-- What a step announces, from its action and its answer. -/
def Step.announced (s : Step) : Option (Event.Kind × Option String) :=
  match s.action, s.answer with
  | .ask r _, .roster result => s.before.roster.announced r result
  | _, _ => none

/-- What is told in a step of a sound watch is what its answer announces. -/
theorem heading_event? {s : Step} (h : s.before.Sound) :
    s.event?.map Event.heading = s.announced := by
  obtain ⟨w, a⟩ := s
  cases a with
  | ask r now => exact Roster.heading_ask h.roster now r
  | subscribe | sendTo | remove | take | drain | drop => rfl

/-! ### One step -/

/-- What a step can do to a mailbox, with what is addressed to it, taken out of it and put in. Only
a step that `removes` the observer does so. -/
inductive Handling (removes : Prop) (capacity : Nat) (m : Mailbox) :
    Mailbox → Option Letter → (out into : List String) → Prop where
  | letter (l : Letter) : Handling removes capacity m (m.offer capacity l.line) (some l) []
      (if (m.offer capacity l.line).listed then [l.line] else [])
  | removed (h : removes) : Handling removes capacity m { m with listed := false } none [] []
  /-- Nothing happens, too, where no line is read. -/
  | read (count : Nat) : Handling removes capacity m { m with queue := m.queue.drop count } none
      (m.queue.take count) []
  | letGo : Handling removes capacity m { m with held := false, queue := [] } none [] []

section handling

variable {n capacity : Nat} {removes : Prop} {s : Step} {w : Watch} {m m' : Mailbox}
  {l? : Option Letter} {out into : List String}

theorem queue_eq (h : w.feed.find? n = some m) : w.queue n = m.queue := by
  rw [queue, h]
  rfl

theorem holds_iff (h : w.feed.find? n = some m) : w.Holds n ↔ m.held = true := by
  simp [Holds, h]

theorem lists_iff (h : w.feed.find? n = some m) : w.Lists n ↔ m.listed = true := by
  simp [Lists, h]

theorem sound_box (hw : w.Sound) (h : w.feed.find? n = some m) : m.Sound :=
  hw.feed.box m (List.mem_of_find?_eq_some h)

/-- A mailbox that is let go of is empty, so all that is in a mailbox can be read. -/
theorem readable_eq (hw : w.Sound) (h : w.feed.find? n = some m) : w.readable n = m.queue := by
  rw [readable, h]
  cases hh : m.held with
  | false => simp [hh, sound_box hw h hh]
  | true => simp [hh]

/-- The line of a letter is put in where the mailbox stays on the list. -/
theorem drop_queue_offer {l : Letter} (h : s.before.feed.find? n = some m)
    (ha : s.after.feed.find? n = some (m.offer capacity l.line)) :
    (s.after.queue n).drop (s.before.queue n).length =
      if (m.offer capacity l.line).listed then [l.line] else [] := by
  rw [queue_eq h, queue_eq ha, Mailbox.queue_offer]
  split <;> simp

theorem drop_queue_same (h : s.before.feed.find? n = some m)
    (ha : s.after.feed.find? n = some m') (hq : m'.queue = m.queue) :
    (s.after.queue n).drop (s.before.queue n).length = [] := by
  rw [queue_eq h, queue_eq ha, hq, List.drop_length]

/-- A step that changes the mailbox of an observer only, by `g`. -/
theorem find?_modify_of_eq {f : Feed} {g : Mailbox → Mailbox} (hg : ∀ m, (g m).id = m.id)
    (h : f.find? n = some m) (k : Nat) :
    (f.modify k g).find? n = some (if k = n then g m else m) := by
  rw [Feed.find?_modify hg, h]
  rfl

/-- What a step does to the mailbox of an observer is one of the four things. -/
def Handled (n : Nat) (s : Step) (m : Mailbox) : Prop :=
  ∃ m', s.after.feed.find? n = some m' ∧
    Handling (s.action = .remove n) s.before.feed.capacity m m' (s.letter? n) (s.taken n)
      (s.arrivals n)

/-- A step that has nothing to do with the mailbox of an observer. -/
theorem handled_same (hl : s.letter? n = none) (ht : s.taken n = []) (hi : s.arrivals n = [])
    (ha : s.after.feed.find? n = some m) : Handled n s m := by
  unfold Handled
  rw [hl, ht, hi]
  exact ⟨m, ha, .read 0⟩

/-- A step that offers a letter to the mailbox of an observer. -/
theorem handled_letter {l : Letter} (hl : s.letter? n = some l) (ht : s.taken n = [])
    (hi : s.arrivals n = if (m.offer s.before.feed.capacity l.line).listed then [l.line] else [])
    (ha : s.after.feed.find? n = some (m.offer s.before.feed.capacity l.line)) :
    Handled n s m := by
  unfold Handled
  rw [hl, ht, hi]
  exact ⟨_, ha, .letter l⟩

theorem handled_ask (r : Roster.Request) (now : Instant) (h : w.feed.find? n = some m) :
    Handled n ⟨w, .ask r now⟩ m := by
  have hf := feed_act_ask w r now
  cases he : (w.roster.ask now r).event with
  | none =>
    rw [he] at hf
    have ha : (w.act (.ask r now)).1.feed.find? n = some m := hf ▸ h
    exact handled_same (by simp [Step.letter?, Step.event?, he]) rfl
      (drop_queue_same (s := ⟨w, .ask r now⟩) h ha rfl) ha
  | some e =>
    rw [he] at hf
    have ha : (w.act (.ask r now)).1.feed.find? n = some (m.offer w.feed.capacity e.line) := by
      rw [hf]
      show (w.feed.publish e.line).find? n = _
      rw [Feed.find?_publish, h]
      rfl
    exact handled_letter (l := .event e) (by simp [Step.letter?, Step.event?, he]) rfl
      (drop_queue_offer (s := ⟨w, .ask r now⟩) (l := .event e) h ha) ha

theorem handled_subscribe (h : w.feed.find? n = some m) : Handled n ⟨w, .subscribe⟩ m := by
  have ha : w.subscribe.1.feed.find? n = some m := by
    unfold subscribe
    split
    · exact h
    · rename_i hs
      exact Feed.find?_subscribe hs h
  exact handled_same rfl rfl (drop_queue_same (s := ⟨w, .subscribe⟩) h ha rfl) ha

theorem handled_sendTo (k : Nat) (line : String) (h : w.feed.find? n = some m) :
    Handled n ⟨w, .sendTo k line⟩ m := by
  have ha := find?_modify_of_eq (g := (·.offer w.feed.capacity line))
    (fun _ => Mailbox.id_offer) h k
  by_cases hk : k = n
  · rw [if_pos hk] at ha
    exact handled_letter (l := .reply line) (if_pos hk) rfl
      (drop_queue_offer (s := ⟨w, .sendTo k line⟩) (l := .reply line) h ha) ha
  · rw [if_neg hk] at ha
    exact handled_same (if_neg hk) rfl (drop_queue_same (s := ⟨w, .sendTo k line⟩) h ha rfl) ha

theorem handled_remove (k : Nat) (h : w.feed.find? n = some m) : Handled n ⟨w, .remove k⟩ m := by
  have ha := find?_modify_of_eq (g := ({ · with listed := false })) (fun _ => rfl) h k
  by_cases hk : k = n
  · rw [if_pos hk] at ha
    have hi : Step.arrivals n ⟨w, .remove k⟩ = [] :=
      drop_queue_same (s := ⟨w, .remove k⟩) h ha rfl
    unfold Handled
    rw [hi]
    exact ⟨_, ha, .removed (congrArg Action.remove hk)⟩
  · rw [if_neg hk] at ha
    exact handled_same rfl rfl (drop_queue_same (s := ⟨w, .remove k⟩) h ha rfl) ha

theorem handled_take (k count : Nat) (h : w.feed.find? n = some m) :
    Handled n ⟨w, .take k count⟩ m := by
  have ha := find?_modify_of_eq (g := fun m => { m with queue := m.queue.drop count })
    (fun _ => rfl) h k
  by_cases hk : k = n
  · rw [if_pos hk] at ha
    have ht : Step.taken n ⟨w, .take k count⟩ = m.queue.take count := by
      subst hk
      show ite _ ((w.feed.find? k).elim _ _) _ = _
      rw [if_pos rfl, h]
      rfl
    unfold Handled
    rw [ht]
    exact ⟨_, ha, .read count⟩
  · rw [if_neg hk] at ha
    exact handled_same rfl (if_neg hk) rfl ha

/-- To take everything out is to take as many lines as there are. -/
theorem handled_drain (k : Nat) (h : w.feed.find? n = some m) : Handled n ⟨w, .drain k⟩ m := by
  have ha := find?_modify_of_eq (g := ({ · with queue := [] })) (fun _ => rfl) h k
  by_cases hk : k = n
  · rw [if_pos hk] at ha
    have ht : Step.taken n ⟨w, .drain k⟩ = m.queue.take m.queue.length := by
      subst hk
      show ite _ ((w.feed.find? k).elim _ _) _ = _
      rw [if_pos rfl, h, List.take_length]
      rfl
    have hd : (w.act (.drain k)).1.feed.find? n =
        some { m with queue := m.queue.drop m.queue.length } := by
      rw [List.drop_length]
      exact ha
    unfold Handled
    rw [ht]
    exact ⟨_, hd, .read m.queue.length⟩
  · rw [if_neg hk] at ha
    exact handled_same rfl (if_neg hk) rfl ha

theorem handled_drop (k : Nat) (h : w.feed.find? n = some m) : Handled n ⟨w, .drop k⟩ m := by
  have ha := find?_modify_of_eq (g := ({ · with held := false, queue := [] })) (fun _ => rfl) h k
  by_cases hk : k = n
  · rw [if_pos hk] at ha
    exact ⟨_, ha, .letGo⟩
  · rw [if_neg hk] at ha
    exact handled_same rfl rfl rfl ha

/-- **A step does one of four things to a mailbox.** -/
theorem handled (a : Action) (h : w.feed.find? n = some m) :
    ∃ m', (w.act a).1.feed.find? n = some m' ∧ Handling (a = .remove n) w.feed.capacity m m'
      (Step.letter? n ⟨w, a⟩) (Step.taken n ⟨w, a⟩) (Step.arrivals n ⟨w, a⟩) := by
  change Handled n ⟨w, a⟩ m
  cases a with
  | ask r now => exact handled_ask r now h
  | subscribe => exact handled_subscribe h
  | sendTo k line => exact handled_sendTo k line h
  | remove k => exact handled_remove k h
  | take k count => exact handled_take k count h
  | drain k => exact handled_drain k h
  | drop k => exact handled_drop k h

/-- Off the list nothing is put in, and the mailbox stays off it. -/
theorem Handling.of_unlisted (h : Handling removes capacity m m' l? out into) (hm : m.listed = false) :
    m'.listed = false ∧ into = [] := by
  cases h with
  | letter l =>
    rw [Mailbox.offer_unlisted hm]
    simp [hm]
  | removed => exact ⟨rfl, rfl⟩
  | read count => exact ⟨hm, rfl⟩
  | letGo => exact ⟨hm, rfl⟩

/-- Where the mailbox stays on the list, what is addressed to it is put in; elsewhere nothing. -/
theorem Handling.into_eq (h : Handling removes capacity m m' l? out into) :
    into = if m'.listed then l?.toList.map Letter.line else [] := by
  cases h <;> simp

/-- A letter for which there is no room, or nobody who could read it, takes the mailbox off the
list. -/
theorem Handling.unlisted_of_no_room (h : Handling removes capacity m m' l? out into)
    (hl : l? ≠ none) (full : m.held = true → capacity ≤ m.queue.length) : m'.listed = false := by
  cases h with
  | letter l =>
    have no_room : m.hasRoom capacity = false := by
      rw [Mailbox.hasRoom, Bool.and_eq_false_imp]
      exact fun held => decide_eq_false (Nat.not_lt.mpr (full held))
    rw [Mailbox.offer_of_no_room (by rw [no_room, Bool.and_false])]
  | removed | read | letGo => exact absurd rfl hl

/-- Nothing else takes a mailbox off the list, but for the removal of its observer. -/
theorem Handling.cut_of_unlisted (h : Handling removes capacity m m' l? out into)
    (hm : m.listed = true) (gone : m'.listed = false) :
    removes ∨ (l? ≠ none ∧ (m.held = true → capacity ≤ m.queue.length)) := by
  cases h with
  | letter l =>
    refine .inr ⟨Option.some_ne_none l, fun held => ?_⟩
    by_contra short
    have room : (m.listed && m.hasRoom capacity) = true := by
      simp only [Mailbox.hasRoom, hm, held, Bool.true_and, decide_eq_true_eq]
      exact Nat.not_le.mp short
    rw [Mailbox.offer_of_room room, hm] at gone
    cases gone
  | removed h => exact .inl h
  | read | letGo =>
    rw [hm] at gone
    cases gone

/-- A mailbox that nobody holds gets nothing and gives nothing. -/
theorem Handling.of_unheld (h : Handling removes capacity m m' l? out into) (hs : m.Sound)
    (hm : m.held = false) : m'.held = false ∧ out = [] ∧ into = [] := by
  cases h with
  | letter l =>
    refine ⟨by rw [Mailbox.held_offer, hm], rfl, if_neg fun hl => ?_⟩
    rw [Mailbox.held_of_listed_offer hl] at hm
    cases hm
  | removed => exact ⟨hm, rfl, rfl⟩
  | read count =>
    refine ⟨hm, ?_, rfl⟩
    rw [hs hm, List.take_nil]
  | letGo => exact ⟨rfl, rfl, rfl⟩

/-- What is taken out and what stays in is what was in and what is put in, but for what is
lost when the mailbox is let go of. -/
theorem Handling.conserves (h : Handling removes capacity m m' l? out into) :
    out ++ m'.queue <+: m.queue ++ into ∧ (m'.held = true → out ++ m'.queue = m.queue ++ into) := by
  have all (he : out ++ m'.queue = m.queue ++ into) : out ++ m'.queue <+: m.queue ++ into ∧
      (m'.held = true → out ++ m'.queue = m.queue ++ into) :=
    ⟨he ▸ List.prefix_refl _, fun _ => he⟩
  cases h with
  | letter l =>
    refine all ?_
    rw [List.nil_append, Mailbox.queue_offer]
    split <;> simp
  | removed => exact all (by simp)
  | read count => exact all (by simp)
  | letGo => exact ⟨List.nil_prefix, fun hh => by cases hh⟩

end handling

/-! ### Runs -/

section run

variable {n : Nat}

@[simp] theorem letters_cons (s : Step) (ss : List Step) :
    letters n (s :: ss) = (s.letter? n).toList ++ letters n ss := by
  cases h : s.letter? n <;> simp [letters, h]

@[simp] theorem taken_cons (s : Step) (ss : List Step) :
    taken n (s :: ss) = s.taken n ++ taken n ss := rfl

@[simp] theorem arrivals_cons (s : Step) (ss : List Step) :
    arrivals n (s :: ss) = s.arrivals n ++ arrivals n ss := rfl

theorem taken_append (ss ts : List Step) : taken n (ss ++ ts) = taken n ss ++ taken n ts :=
  List.flatMap_append

theorem arrivals_append (ss ts : List Step) :
    arrivals n (ss ++ ts) = arrivals n ss ++ arrivals n ts :=
  List.flatMap_append

/-- Once off the list an observer stays off it, and nothing is put in its mailbox any more. -/
theorem unlisted_run : ∀ (as : List Action) {w : Watch} {m : Mailbox},
    w.feed.find? n = some m → m.listed = false →
      (∃ m', (w.run as).1.feed.find? n = some m' ∧ m'.listed = false) ∧
        arrivals n (w.steps as) = []
  | [], _, m, h, hm => ⟨⟨m, h, hm⟩, rfl⟩
  | a :: as, w, _, h, hm => by
    obtain ⟨m₁, h₁, hh⟩ := handled a h
    obtain ⟨hm₁, hi⟩ := hh.of_unlisted hm
    obtain ⟨hend, harr⟩ := unlisted_run as h₁ hm₁
    refine ⟨hend, ?_⟩
    rw [steps_cons, arrivals_cons, hi]
    exact harr

/-- Once an observer let go of its mailbox it gets nothing any more. -/
theorem unheld_run : ∀ (as : List Action) {w : Watch} {m : Mailbox},
    w.Sound → w.feed.find? n = some m → m.held = false →
      (∃ m', (w.run as).1.feed.find? n = some m' ∧ m'.held = false) ∧
        taken n (w.steps as) = [] ∧ arrivals n (w.steps as) = []
  | [], _, m, _, h, hm => ⟨⟨m, h, hm⟩, rfl, rfl⟩
  | a :: as, w, _, hw, h, hm => by
    obtain ⟨m₁, h₁, hh⟩ := handled a h
    obtain ⟨hm₁, ho, hi⟩ := hh.of_unheld (sound_box hw h) hm
    obtain ⟨hend, htak, harr⟩ := unheld_run as (hw.act a) h₁ hm₁
    refine ⟨hend, ?_, ?_⟩
    · rw [steps_cons, taken_cons, ho]
      exact htak
    · rw [steps_cons, arrivals_cons, hi]
      exact harr

/-- The lines put in a mailbox are the first ones of those addressed to it, and all of them as
long as it is on the list. -/
theorem arrivals_run : ∀ (as : List Action) {w : Watch} {m : Mailbox},
    w.feed.find? n = some m → ∃ m', (w.run as).1.feed.find? n = some m' ∧
      arrivals n (w.steps as) <+: (letters n (w.steps as)).map Letter.line ∧
      (m'.listed = true → arrivals n (w.steps as) = (letters n (w.steps as)).map Letter.line)
  | [], _, m, h => ⟨m, h, List.nil_prefix, fun _ => rfl⟩
  | a :: as, w, _, h => by
    obtain ⟨m₁, h₁, hh⟩ := handled a h
    have hi := hh.into_eq
    rw [steps_cons, letters_cons, arrivals_cons, List.map_append]
    cases hm₁ : m₁.listed with
    | false =>
      -- off the list: this step put nothing in, and no later one will
      obtain ⟨⟨m', hend, hl⟩, harr⟩ := unlisted_run as h₁ hm₁
      rw [hm₁, if_neg (by simp)] at hi
      refine ⟨m', hend, ?_, fun ht => ?_⟩
      · rw [hi, harr]
        exact List.nil_prefix
      · rw [hl] at ht
        cases ht
    | true =>
      obtain ⟨m', hend, hpre, hall⟩ := arrivals_run as h₁
      rw [hm₁, if_pos rfl] at hi
      rw [hi]
      exact ⟨m', hend, (List.prefix_append_right_inj _).mpr hpre, fun ht => by rw [hall ht]⟩

/-- What is taken out of a mailbox and what is left in it at the end are the first ones of the
lines that were in it and were put in, and all of them as long as the mailbox is held. -/
theorem received_run : ∀ (as : List Action) {w : Watch} {m : Mailbox},
    w.Sound → w.feed.find? n = some m → ∃ m', (w.run as).1.feed.find? n = some m' ∧
      taken n (w.steps as) ++ m'.queue <+: m.queue ++ arrivals n (w.steps as) ∧
      (m'.held = true →
        taken n (w.steps as) ++ m'.queue = m.queue ++ arrivals n (w.steps as))
  | [], _, m, _, h => ⟨m, h, by simp [taken, arrivals], fun _ => by simp [taken, arrivals]⟩
  | a :: as, w, m, hw, h => by
    obtain ⟨m₁, h₁, hh⟩ := handled a h
    obtain ⟨hpre, heq⟩ := hh.conserves
    simp only [steps_cons, taken_cons, arrivals_cons, List.append_assoc]
    rw [← List.append_assoc m.queue]
    cases hm₁ : m₁.held with
    | false =>
      -- let go of: what was in is lost, and nothing comes in any more
      obtain ⟨⟨m', hend, hl⟩, htak, harr⟩ := unheld_run as (hw.act a) h₁ hm₁
      have hs₁ := sound_box (hw.act a) h₁ hm₁
      have hs' := sound_box ((hw.act a).run as) hend hl
      refine ⟨m', hend, ?_, fun ht => ?_⟩
      · rw [hs₁, List.append_nil] at hpre
        rw [htak, harr, hs', List.append_nil, List.append_nil, List.append_nil]
        exact hpre
      · rw [hl] at ht
        cases ht
    | true =>
      obtain ⟨m', hend, hpre', hall⟩ := received_run as (hw.act a) h₁
      rw [← heq hm₁, List.append_assoc]
      exact ⟨m', hend, (List.prefix_append_right_inj _).mpr hpre', fun ht => by rw [hall ht]⟩

/-- A new observer has its first line in its mailbox, and nothing else. -/
theorem find?_act_subscribe {w : Watch} (hw : w.Sound)
    (h : (w.act .subscribe).2 = .subscribed (.ok n)) :
    (w.act .subscribe).1.feed.find? n = some { id := n, queue := [w.initialLine] } := by
  have h' : w.subscribe.2 = .ok n := by simpa [act] using h
  exact Feed.find?_new_observer hw.feed (feed_subscribe h')

/-- What a run leaves to be received is what was in the mailbox and what was put in. -/
theorem received_isPrefix {w : Watch} {m : Mailbox} (hw : w.Sound) (h : w.feed.find? n = some m)
    (as : List Action) : received n w as <+: m.queue ++ arrivals n (w.steps as) := by
  obtain ⟨m', hend, hpre, -⟩ := received_run as hw h
  rw [received, readable_eq (hw.run as) hend]
  exact hpre

theorem received_of_holds {w : Watch} {m : Mailbox} (hw : w.Sound) (h : w.feed.find? n = some m)
    {as : List Action} (hh : (w.run as).1.Holds n) :
    received n w as = m.queue ++ arrivals n (w.steps as) := by
  obtain ⟨m', hend, -, hall⟩ := received_run as hw h
  rw [received, readable_eq (hw.run as) hend]
  exact hall ((holds_iff hend).mp hh)

/-- All that is addressed to an observer on the list is put in its mailbox. -/
theorem arrivals_of_lists {w : Watch} {m : Mailbox} (h : w.feed.find? n = some m)
    {as : List Action} (hl : (w.run as).1.Lists n) :
    arrivals n (w.steps as) = (letters n (w.steps as)).map Letter.line := by
  obtain ⟨m', hend, -, hall⟩ := arrivals_run as h
  exact hall ((lists_iff hend).mp hl)

theorem cuts_iff {s : Step} {m : Mailbox} {room : Nat} (h : s.before.feed.find? n = some m) :
    s.Cuts room n ↔ s.action = .remove n ∨
      (s.letter? n ≠ none ∧ (m.held = true → room ≤ m.queue.length)) := by
  rw [Step.Cuts, holds_iff h, queue_eq h]

/-- A step that cuts an observer puts nothing in its mailbox and takes it off the list. -/
theorem unlisted_of_cuts {w : Watch} {m : Mailbox} {a : Action} (h : w.feed.find? n = some m)
    (hc : Step.Cuts w.feed.capacity n ⟨w, a⟩) :
    (∃ m', (w.act a).1.feed.find? n = some m' ∧ m'.listed = false) ∧
      Step.arrivals n ⟨w, a⟩ = [] := by
  obtain ⟨m', ha, hh⟩ := handled a h
  have gone : m'.listed = false := by
    rcases (cuts_iff h).mp hc with removed | ⟨letter, full⟩
    · obtain rfl : a = .remove n := removed
      have box := find?_modify_of_eq (g := ({ · with listed := false })) (fun _ => rfl) h n
      rw [if_pos rfl] at box
      obtain rfl := Option.some.inj (box.symm.trans ha)
      rfl
    · exact hh.unlisted_of_no_room letter full
  refine ⟨⟨m', ha, gone⟩, ?_⟩
  rw [hh.into_eq, gone]
  rfl

/-- **An observer is on the list until it is cut.** -/
theorem lists_run_iff {room limit : Nat} (one : 1 ≤ room) : ∀ (as : List Action) {w : Watch}
    {m : Mailbox}, w.feed.Bounded room limit → w.feed.find? n = some m → m.listed = true →
      ((w.run as).1.Lists n ↔ ∀ s ∈ w.steps as, ¬ s.Cuts room n)
  | [], _, _, _, h, hm => ⟨fun _ _ hs => absurd hs List.not_mem_nil, fun _ => (lists_iff h).mpr hm⟩
  | a :: as, w, m, hw, h, hm => by
    rw [run_cons_fst, steps_cons, List.forall_mem_cons]
    by_cases cut : Step.Cuts room n ⟨w, a⟩
    · -- off the list for good, whatever comes
      obtain ⟨⟨m', ha, gone⟩, -⟩ := unlisted_of_cuts h (hw.sameCapacity.symm ▸ cut)
      obtain ⟨⟨m'', hend, unlisted⟩, -⟩ := unlisted_run as ha gone
      rw [lists_iff hend, unlisted]
      exact ⟨nofun, fun uncut => absurd cut uncut.1⟩
    · obtain ⟨m', ha, hh⟩ := handled a h
      have stays : m'.listed = true := by
        by_contra gone
        rw [hw.sameCapacity] at hh
        exact cut ((cuts_iff h).mpr (hh.cut_of_unlisted hm (Bool.of_not_eq_true gone)))
      rw [lists_run_iff one as (bounded_act one hw a) ha stays, and_iff_right cut]

/-- What is put in a mailbox until its observer is cut is all that is ever put in, so nothing more
reaches the observer. -/
theorem received_of_cuts {w : Watch} {m : Mailbox} (hw : w.Sound) (h : w.feed.find? n = some m)
    (as bs : List Action) {a : Action}
    (hc : Step.Cuts (w.run as).1.feed.capacity n ⟨(w.run as).1, a⟩) :
    arrivals n ((w.run (as ++ [a])).1.steps bs) = [] ∧
      arrivals n (w.steps (as ++ a :: bs)) = arrivals n (w.steps as) ∧
      received n w (as ++ a :: bs) <+: received n w (as ++ [a]) ∧
      ¬ (w.run (as ++ a :: bs)).1.Lists n := by
  have hu : (w.run as).1.Sound := hw.run as
  obtain ⟨m₁, h₁, -⟩ := arrivals_run as h
  obtain ⟨⟨m₂, h₂, hl₂⟩, hnone⟩ := unlisted_of_cuts h₁ hc
  have hsplit : as ++ a :: bs = (as ++ [a]) ++ bs := by simp
  have hmid : (w.run (as ++ [a])).1 = ((w.run as).1.act a).1 := by
    rw [run_append_fst]
    rfl
  obtain ⟨⟨m₃, h₃, hl₃⟩, harr⟩ := unlisted_run bs h₂ hl₂
  refine ⟨by rw [hmid]; exact harr, ?_, ?_, ?_⟩
  · rw [steps_append, steps_cons, arrivals_append, arrivals_cons, hnone, harr, List.append_nil,
      List.append_nil]
  · have hpre := received_isPrefix (hu.act a) h₂ bs
    rw [harr, List.append_nil] at hpre
    rw [hsplit, received, steps_append w (as ++ [a]), taken_append, run_append_fst w (as ++ [a]),
      List.append_assoc, received, hmid, readable_eq (hu.act a) h₂]
    exact (List.prefix_append_right_inj _).mpr hpre
  · rw [hsplit, run_append_fst w (as ++ [a]), hmid, lists_iff h₃, hl₃]
    exact Bool.false_ne_true

end run

/-- **Delivery has no gaps.** The events of a run are those that its answers announce. What an
observer has read and can read is its first line and then the first lines of those that are
addressed to it after it subscribed. The first line is among it as long as the observer holds its
mailbox, and all the others are while it is on the list too. It is on the list until it is removed,
or something is addressed to it for which there is no room in its mailbox or which nobody could
read. From there on nothing is put in its mailbox: if it holds it still, what it has read and can
read is its first line and all that was addressed to it before. -/
theorem delivery_gap_free (capacity limit n : Nat) (before after : List Action)
    (subscribed : (((Watch.new capacity limit).run before).1.act .subscribe).2 =
      .subscribed (.ok n)) :
    let start := ((Watch.new capacity limit).run before).1
    let watch := (start.act .subscribe).1
    let final := (watch.run after).1
    let room := max capacity 1
    let addressed (as : List Action) := (letters n (watch.steps as)).map Letter.line
    (∀ s ∈ (Watch.new capacity limit).steps (before ++ .subscribe :: after),
      s.event?.map Event.heading = s.announced) ∧
    received n watch after <+: start.initialLine :: addressed after ∧
    (final.Holds n → ∃ sent, sent <+: addressed after ∧
      received n watch after = start.initialLine :: sent) ∧
    (final.Holds n → final.Lists n →
      received n watch after = start.initialLine :: addressed after) ∧
    (final.Lists n ↔ ∀ s ∈ watch.steps after, ¬ s.Cuts room n) ∧
    ∀ as a bs, after = as ++ a :: bs → Step.Cuts room n ⟨(watch.run as).1, a⟩ →
      arrivals n ((watch.run (as ++ [a])).1.steps bs) = [] ∧
        received n watch after <+: received n watch (as ++ [a]) ∧
        ¬ final.Lists n ∧
        (final.Holds n → (watch.run as).1.Lists n →
          received n watch after = start.initialLine :: addressed as) := by
  intro start watch final room addressed
  have hstart : start.Sound := sound_run capacity limit before
  have hwatch : watch.Sound := hstart.act .subscribe
  have one : 1 ≤ room := Nat.le_max_right _ _
  have hbound : watch.feed.Bounded room (max limit 1) :=
    bounded_act one (bounded_run capacity limit before) .subscribe
  have hbox := find?_act_subscribe hstart subscribed
  have received_all (hheld : final.Holds n) :
      received n watch after = start.initialLine :: arrivals n (watch.steps after) :=
    received_of_holds hwatch hbox hheld
  obtain ⟨-, -, hsent, -⟩ := arrivals_run after hbox
  refine ⟨fun s hs => ?_, ?_, fun hheld => ⟨_, hsent, received_all hheld⟩,
    fun hheld hlisted => ?_, lists_run_iff one after hbound hbox rfl, fun as a bs hafter hc => ?_⟩
  · exact heading_event? (steps_keep (fun _ a h => h.act a) _ _ (sound_new capacity limit) s hs)
  · refine (received_isPrefix hwatch hbox after).trans ?_
    exact (List.prefix_append_right_inj [start.initialLine]).mpr hsent
  · rw [received_all hheld, arrivals_of_lists hbox hlisted]
  · have same : (watch.run as).1.feed.capacity = room :=
      (run_keeps (P := fun w => w.feed.Bounded _ _) (fun _ a h => bounded_act one h a) as watch
        hbound).sameCapacity
    subst hafter
    obtain ⟨nothing, until_cut, fewer, unlisted⟩ :=
      received_of_cuts hwatch hbox as bs (same.symm ▸ hc)
    refine ⟨nothing, fewer, unlisted, fun hheld hlisted => ?_⟩
    rw [received_all hheld, until_cut, arrivals_of_lists hbox hlisted]

/-- Two lines fit in. The observer reads one of them, a reply takes its place, and the next event
finds no room. What came before it is read late, and nothing comes after it. -/
theorem delivery_gap_free_full :
    let noon : Instant := ⟨⟨2024, 3, 1⟩, 43200, 0⟩
    let new : Registration := ⟨"one", "first", "/src", .claude⟩
    let arrival := Action.ask (.register new) noon
    let change := Action.ask (.setState "one" .idle) noon
    let as := [arrival, .take 1 1, .sendTo 1 "reply"]
    let bs := [.drain 1, arrival]
    let start := Watch.new 2 1
    let watch := (start.act .subscribe).1
    let after := as ++ change :: bs
    (start.act .subscribe).2 = .subscribed (.ok 1) ∧
      Step.Cuts 2 1 ⟨(watch.run as).1, change⟩ ∧
      taken 1 (watch.steps as) = [start.initialLine] ∧
      received 1 watch after =
        [start.initialLine, (Event.sessionAdded (.fresh new noon) false).line, "reply"] ∧
      arrivals 1 ((watch.run (as ++ [change])).1.steps bs) = [] ∧
      ¬ (watch.run after).1.Lists 1 := by
  intro noon new arrival change as bs start watch after
  have subscribed : (start.act .subscribe).2 = .subscribed (.ok 1) := rfl
  have cut : Step.Cuts 2 1 ⟨(watch.run as).1, change⟩ :=
    .inr ⟨Option.some_ne_none _, fun _ => Nat.le_refl 2⟩
  have held : (watch.run after).1.Holds 1 := by decide
  have listed : (watch.run as).1.Lists 1 := by decide
  obtain ⟨-, -, -, -, -, ends⟩ := delivery_gap_free 2 1 1 [] after subscribed
  obtain ⟨nothing, -, unlisted, all⟩ := ends as change bs rfl cut
  exact ⟨subscribed, cut, rfl, all held listed, nothing, unlisted⟩

end SessionWatch.Watch
