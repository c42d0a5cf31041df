/-
# The listing of a watch

What is listed after a run: each session that was registered and not taken off
since, once, in the order of the places. An observer starts from the same
list, and the order in which the roster keeps its entries has no part in it.
One action more keeps the order of the ids, leaves one out, or puts one in
where its place is.

Key definitions: `Watch.enrolled`, `Watch.Action.Relists`.
Key theorems: `Watch.relists_act`, `Watch.count_ids_run`,
`Watch.query_canonical`.
-/
import Mathlib.Data.List.Induction
import SessionWatch.Proofs.Roster.Announcement
import SessionWatch.Proofs.Roster.Listing
import SessionWatch.Proofs.Watch.Delivery
import SessionWatch.Proofs.Watch.MuteRecord

namespace SessionWatch

namespace Roster

/-- A request that is told as an arrival is a registration, and one that is told as an end takes a
session off. -/
theorem request_of_announced {ro : Roster} {r : Request} {result : Except Problem Answer}
    {subject : Option String} :
    (ro.announced r result = some (.sessionAdded, subject) → ∃ q, r = .register q) ∧
      (ro.announced r result = some (.sessionRemoved, subject) → ∃ id, r = .unregister id) := by
  unfold announced
  constructor <;> split <;> simp

/-- Any other request leaves the order of the listing as it is. -/
theorem Sound.ids_ask {ro : Roster} (h : ro.Sound) (now : Instant) {r : Request}
    (added : ∀ q, r ≠ .register q) (removed : ∀ id, r ≠ .unregister id) :
    (ro.ask now r).roster.ids = ro.ids := by
  have told := heading_ask h now r
  refine h.ids_effect (ask_effect ro now r) (fun s replaced event => ?_) fun id event => ?_
  · rw [event] at told
    obtain ⟨q, rfl⟩ := request_of_announced.1 told.symm
    exact added q rfl
  · rw [event] at told
    obtain ⟨id, rfl⟩ := request_of_announced.2 told.symm
    exact removed id rfl

end Roster

namespace Watch

/-- Of the steps that register a session under the id or take it off, the last one registers
it. -/
def enrolled (id : String) (ss : List Step) : Bool :=
  (ss.filter fun s => s.registers id || s.unregisters id).getLast?.any (·.registers id)

/-- What the action makes of the listing. A new session comes between those that precede it and
those that it precedes. -/
def Action.Relists (listed listed' : List Session) : Action → Prop
  | .ask (.register r) now => ∃ earlier later,
    (listed.filter fun s => s.id ≠ r.id) = earlier ++ later ∧
      listed' = earlier ++ .fresh r now :: later ∧
      (∀ s ∈ earlier, s.Precedes (.fresh r now)) ∧ ∀ s ∈ later, (Session.fresh r now).Precedes s
  | .ask (.unregister id) _ => listed' = listed.filter fun s => s.id ≠ id
  | _ => listed'.map (·.id) = listed.map (·.id)

/-- **One action more puts a session in its place, leaves one out, or keeps the order.** -/
theorem relists_act {w : Watch} (h : w.Sound) (a : Action) :
    a.Relists w.roster.sessions (w.act a).1.roster.sessions := by
  cases a with
  | ask r now =>
    rw [roster_act_ask]
    cases r with
    | register r => exact h.roster.sessions_register r now
    | unregister id => exact h.roster.sessions_unregister id
    | setState | beginStop | commitStop | setTodos | touch | mute | undoMute | clearLastMuted =>
      exact h.roster.ids_ask now nofun nofun
  | subscribe | sendTo | remove | take | drain | drop =>
    show (w.act _).1.roster.ids = w.roster.ids
    rw [roster_act (by simp)]

/-! ### Ids in a listing -/

theorem count_without (id id' : String) (l : List Session) :
    ((l.filter fun s => s.id ≠ id').map (·.id)).count id =
      if id' = id then 0 else (l.map (·.id)).count id := by
  have ids : (l.filter fun s => s.id ≠ id').map (·.id) = (l.map (·.id)).filter (· ≠ id') := by
    rw [List.filter_map]
    rfl
  rw [ids]
  split
  · next same =>
    subst same
    exact List.count_eq_zero.mpr (by simp)
  · next apart => exact List.count_filter (by simpa using Ne.symm apart)

theorem enrolled_concat (id : String) (ss : List Step) (s : Step) :
    enrolled id (ss ++ [s]) = (s.registers id || (!s.unregisters id && enrolled id ss)) := by
  rw [enrolled, List.filter_append, List.filter_cons, List.filter_nil]
  cases hr : s.registers id <;> cases hu : s.unregisters id <;> simp [enrolled, hr]

/-- An id is listed as often after a step as before, unless the step decides it. -/
theorem Action.Relists.count_eq {listed listed' : List Session} {s : Step}
    (h : s.action.Relists listed listed') (id : String) :
    (listed'.map (·.id)).count id =
      if s.registers id then 1
      else if s.unregisters id then 0
      else (listed.map (·.id)).count id := by
  obtain ⟨w, a⟩ := s
  cases a with
  | ask r now =>
    cases r with
    | register r =>
      obtain ⟨earlier, later, parts, rfl, -⟩ := h
      have rest := count_without id r.id listed
      rw [parts, List.map_append, List.count_append] at rest
      rw [List.map_append, List.count_append, List.map_cons, List.count_cons]
      show _ + (_ + if r.id == id then 1 else 0) = if decide (r.id = id) then 1 else _
      by_cases same : r.id = id
      · rw [if_pos same] at rest
        rw [if_pos (beq_iff_eq.mpr same), if_pos (decide_eq_true same)]
        omega
      · rw [if_neg same] at rest
        rw [if_neg (by simpa using same), if_neg (by simpa using same), Nat.add_zero, rest]
        rfl
    | unregister id' =>
      have left_out : listed' = listed.filter fun s => s.id ≠ id' := h
      rw [left_out, count_without]
      show _ = if decide (id' = id) then 0 else _
      by_cases same : id' = id
      · rw [if_pos same, if_pos (decide_eq_true same)]
      · rw [if_neg same, if_neg (by simpa using same)]
    | setState | beginStop | commitStop | setTodos | touch | mute | undoMute | clearLastMuted =>
      exact congrArg (List.count id) h
  | subscribe | sendTo | remove | take | drain | drop => exact congrArg (List.count id) h

/-- **Each session that is registered is listed once, and no other.** -/
theorem count_ids_run (capacity limit : Nat) (as : List Action) (id : String) :
    ((Watch.new capacity limit).run as).1.roster.ids.count id =
      if enrolled id ((Watch.new capacity limit).steps as) then 1 else 0 := by
  induction as using List.reverseRecOn with
  | nil => simp [Roster.ids, Roster.sessions, new, enrolled]
  | append_singleton as a ih =>
    let last : Step := ⟨((Watch.new capacity limit).run as).1, a⟩
    have relists : last.action.Relists last.before.roster.sessions last.after.roster.sessions :=
      relists_act (sound_run capacity limit as) a
    rw [run_append_fst, steps_append]
    show last.after.roster.ids.count id = if enrolled id (_ ++ [last]) then 1 else 0
    rw [enrolled_concat]
    refine (relists.count_eq id).trans ?_
    cases last.registers id with
    | true => rfl
    | false =>
      cases last.unregisters id with
      | true => rfl
      | false => exact ih

/-! ### The listing of a reached watch -/

/-- Entries in another order are listed in the same order. -/
theorem query_shuffled {w : Watch} (h : w.Sound) {entries : List (String × Roster.Entry)}
    (perm : entries.Perm w.roster.entries) :
    let shuffled : Watch := { w with roster := { w.roster with entries := entries } }
    (∀ s, shuffled.roster.query s = w.roster.query s) ∧
      shuffled.initialLine = w.initialLine := by
  intro shuffled
  have same : shuffled.roster.sessions = w.roster.sessions :=
    h.roster.sessions_unique shuffled.roster.sessions_sorted
      (shuffled.roster.sessions_perm.trans (perm.map _))
  refine ⟨fun s => ?_, ?_⟩
  · cases s with
    | none => exact same
    | some s => exact congrArg (List.filter _) same
  · exact congrArg (fun l => (Event.initialState l w.roster.lastMuted).line) same

/-- **The order of a listing is canonical, and stays.** What a new observer starts from is what is
listed: each session that is registered, once, in the order of the places, whatever the order in
which the roster keeps its entries. The sessions in a state are listed in the same order. No
action changes the order but by taking a session off or putting one in its place. -/
theorem query_canonical (capacity limit : Nat) (as : List Action) :
    let w := ((Watch.new capacity limit).run as).1
    let listed := w.roster.query none
    (∀ n, (w.act .subscribe).2 = .subscribed (.ok n) →
      (w.act .subscribe).1.queue n = [(Event.initialState listed w.roster.lastMuted).line]) ∧
    (∀ id, (listed.map (·.id)).count id =
      if enrolled id ((Watch.new capacity limit).steps as) then 1 else 0) ∧
    (listed.map (·.id)).Perm (w.roster.entries.map Prod.fst) ∧
    listed.Pairwise Session.Precedes ∧
    (∀ entries, entries.Perm w.roster.entries →
      let shuffled : Watch := { w with roster := { w.roster with entries := entries } }
      (∀ s, shuffled.roster.query s = w.roster.query s) ∧
        shuffled.initialLine = w.initialLine) ∧
    (∀ s, (w.roster.query (some s)).Sublist listed ∧
      ∀ t, t ∈ w.roster.query (some s) ↔ t ∈ listed ∧ t.state = s) ∧
    ∀ a : Action, a.Relists listed ((w.act a).1.roster.query none) := by
  intro w listed
  have sound : w.Sound := sound_run capacity limit as
  refine ⟨fun n subscribed => queue_eq (find?_act_subscribe sound subscribed),
    count_ids_run capacity limit as, sound.roster.ids_perm, sound.roster.sessions_pairwise,
    fun entries perm => query_shuffled sound perm, fun s => ⟨List.filter_sublist, fun t => ?_⟩,
    relists_act sound⟩
  show t ∈ listed.filter _ ↔ _
  rw [List.mem_filter, decide_eq_true_eq]

/-- Two sessions are registered at one instant, and after them one whose clock was set back; the
state of one is set, and its entry moves. -/
theorem query_canonical_set_back :
    let noon : Instant := ⟨⟨2024, 3, 1⟩, 43200, 0⟩
    let eleven : Instant := ⟨⟨2024, 3, 1⟩, 39600, 0⟩
    let new (id : String) : Registration := ⟨id, "", "/src", .claude⟩
    let as := [Action.ask (.register (new "b")) noon, .ask (.register (new "a")) noon,
      .ask (.register (new "c")) eleven, .ask (.setState "b" .idle) noon]
    let w := ((Watch.new 4 2).run as).1
    let a : Session := .fresh (new "a") noon
    let b : Session := { Session.fresh (new "b") noon with state := .idle }
    let c : Session := .fresh (new "c") eleven
    let shuffled : Watch :=
      { w with roster := { w.roster with entries := w.roster.entries.reverse } }
    (w.act .subscribe).2 = .subscribed (.ok 1) ∧
      w.roster.entries.reverse.Perm w.roster.entries ∧
      w.roster.query none = [c, a, b] ∧ ((w.roster.query none).map (·.id)).count "b" = 1 ∧
      (w.act .subscribe).1.queue 1 = [(Event.initialState (w.roster.query none) none).line] ∧
      shuffled.roster.query (some .idle) = w.roster.query (some .idle) ∧
      ((w.act (.ask (.register (new "c")) noon)).1.roster.query none).Pairwise
        Session.Precedes := by
  intro noon eleven new as w a b c shuffled
  have subscribed : (w.act .subscribe).2 = .subscribed (.ok 1) := rfl
  have reversed : w.roster.entries.reverse.Perm w.roster.entries := List.reverse_perm _
  have ascending : [c, a, b].Pairwise Session.Precedes := by
    simp only [a, b, c, new, noon, eleven]
    decide
  have listed : w.roster.query none = [c, a, b] := by
    refine ((sound_run 4 2 as).roster.sessions_unique
      (ascending.imp fun h => (Session.precedes_iff.mp h).le) ?_).symm
    show ([c, a] ++ [b]).Perm ([b] ++ [c, a])
    exact List.perm_append_comm
  obtain ⟨initial, once, -, -, canonical, -, -⟩ := query_canonical 4 2 as
  obtain ⟨-, -, -, later, -⟩ :=
    query_canonical 4 2 (as ++ [.ask (.register (new "c")) noon])
  exact ⟨subscribed, reversed, listed, once "b", initial 1 subscribed,
    (canonical _ reversed).1 _, later⟩

end Watch

end SessionWatch
