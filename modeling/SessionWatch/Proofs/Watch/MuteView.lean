/-
# What an observer knows to be muted

The first line of an observer names the last mute, and no other thing that is
muted. An observer that follows the events from there marks what is muted and
unmarks what is unmuted. What it knows of the things outside is right as far
as it goes: it marks exactly those that are muted and of which it was told.
What is muted last is for it as for an observer that comes at the end, unless
the record was dropped since without a word.

Key definitions: `MuteView`, `MuteView.follow`, `Watch.Step.forgets`,
`Watch.forgottenSince`, `Watch.Sees`.
Key theorems: `Watch.Sees.step`, `Watch.sees_run`, `Watch.mute_view_told`,
`Watch.mute_view_incomplete`.
-/
import Mathlib.Data.Finset.Option
import SessionWatch.Proofs.Watch.MuteRecord
import SessionWatch.Proofs.Watch.Replica

namespace SessionWatch

/-- The mutes as an observer knows them. -/
structure MuteView where
  /-- What is unmuted if the last mute is undone. -/
  target : Option (MuteKind × String) := none
  marked : Finset (MuteKind × String) := ∅
  deriving DecidableEq

namespace MuteView

/-- The view from a first line, which tells of the last mute only. -/
def ofRecord (last : Option MuteRecord) : MuteView :=
  ⟨last.map MuteRecord.target, (last.map MuteRecord.target).toFinset⟩

/-- The view with a thing marked, and its mute the one to undo. -/
def mark (v : MuteView) (x : MuteKind × String) : MuteView := ⟨some x, insert x v.marked⟩

/-- The view with a thing unmarked, and no longer the one to undo. -/
def unmark (v : MuteView) (x : MuteKind × String) : MuteView :=
  ⟨v.target.filter (· ≠ x), v.marked.erase x⟩

/-- The view after an event. -/
def follow (v : MuteView) : Event → MuteView
  | .initialState _ last => ofRecord last
  | .muteChanged kind id true => v.mark (kind, id)
  | .muteChanged kind id false => v.unmark (kind, id)
  | _ => v

/-- An event that says nothing of mutes changes no view. -/
theorem follow_other (v : MuteView) {e : Event}
    (first : ∀ sessions last, e ≠ .initialState sessions last)
    (other : ∀ kind id flag, e ≠ .muteChanged kind id flag) : v.follow e = v := by
  cases e with
  | initialState sessions last => exact absurd rfl (first sessions last)
  | muteChanged kind id flag => exact absurd rfl (other kind id flag)
  | sessionAdded | sessionRemoved | stateChanged | todosChanged => rfl

end MuteView

namespace Watch

open Roster (MuteEffect)

/-! ### What is told -/

/-- No step tells a first line. -/
theorem event?_ne_initialState {s : Step} {sessions : List Session} {last : Option MuteRecord} :
    s.event? ≠ some (.initialState sessions last) := by
  intro told
  rcases s.effect with ⟨now, he⟩ | ⟨-, silent⟩
  · generalize s.after.roster = ro' at he
    rw [told] at he
    cases he
  · rw [silent] at told
    cases told

/-- The step drops the record of the last mute, and nobody is told. -/
def Step.forgets (s : Step) : Bool :=
  match s.action with
  | .ask .clearLastMuted _ => s.before.roster.lastMuted.isSome
  | .ask .undoMute _ => s.before.roster.lastMuted.isSome && s.event?.isNone
  | _ => false

/-- A record that a step drops was there, and it is gone. -/
theorem lastMuted_of_forgets {s : Step} (h : s.forgets = true) :
    s.before.roster.lastMuted ≠ none ∧ s.after.roster.lastMuted = none := by
  obtain ⟨w, a⟩ := s
  unfold Step.forgets at h
  split at h
  · rename_i now ask
    obtain rfl : a = .ask .clearLastMuted now := ask
    exact ⟨Option.isSome_iff_ne_none.mp h, congrArg Roster.lastMuted (roster_act_ask w _ now)⟩
  · rename_i now ask
    obtain rfl : a = .ask .undoMute now := ask
    obtain ⟨record, -⟩ := Bool.and_eq_true_iff.mp h
    refine ⟨Option.isSome_iff_ne_none.mp record, ?_⟩
    show (w.act (.ask .undoMute now)).1.roster.lastMuted = none
    rw [roster_act_ask]
    exact Roster.lastMuted_undoMute w.roster
  · cases h

/-- The record of the last mute was dropped since, and nobody was told. -/
def forgottenSince (ss : List Step) : Bool := (sinceMute ss).any Step.forgets

theorem forgottenSince_of_mutes (ss : List Step) {s : Step} (h : s.mutes = true) :
    forgottenSince (ss ++ [s]) = false := by
  rw [forgottenSince, sinceMute_of_mutes ss h, List.any_nil]

theorem forgottenSince_concat (ss : List Step) {s : Step} (h : s.mutes = false) :
    forgottenSince (ss ++ [s]) = (forgottenSince ss || s.forgets) := by
  simp [forgottenSince, sinceMute_concat ss h]

/-! ### Views along a run -/

/-- The flag of a session is none of those outside. -/
theorem update_session_of_outside {f : MuteKind × String → Option Bool} {x : MuteKind × String}
    (outside : x.1 ≠ .session) {id : String} {flag : Option Bool} :
    Function.update f (.session, id) flag x = f x := by
  refine Function.update_of_ne ?_ _ _
  rintro rfl
  exact outside rfl

/-- What a view that started from `v₀` is worth after the steps `ss`: what is to be undone is what
is on record, unless that was dropped; and what is marked outside is what is muted there, as far
as it was marked at the start or told of. -/
structure Sees (v₀ v : MuteView) (ro : Roster) (ss : List Step) : Prop where
  target : ro.lastMuted.map MuteRecord.target = if forgottenSince ss then none else v.target
  target_marked : ∀ x ∈ v.target, x ∈ v.marked
  marked : ∀ x : MuteKind × String, x.1 ≠ .session → (x ∈ v.marked ↔
    ro.flag? x = some true ∧ (x ∈ v₀.marked ∨ ∃ flag, .muteChanged x.1 x.2 flag ∈ events ss))

section sees

variable {v₀ v : MuteView} {ss : List Step} {s : Step}

/-- A view goes on to see what it sees if the step tells it nothing of mutes, keeps the record and
changes no flag outside. -/
theorem Sees.of_kept (h : Sees v₀ v s.before.roster ss)
    (last : s.after.roster.lastMuted = s.before.roster.lastMuted)
    (flags : ∀ x, x.1 ≠ .session → s.after.roster.flag? x = s.before.roster.flag? x)
    (told : ∀ kind id flag, s.event? ≠ some (.muteChanged kind id flag)) :
    Sees v₀ (s.event?.elim v v.follow) s.after.roster (ss ++ [s]) := by
  have quiet : s.mutes = false := Step.mutes_of_untold told
  have keeps : s.forgets = false := by
    by_contra forgets
    obtain ⟨record, dropped⟩ := lastMuted_of_forgets (Bool.of_not_eq_false forgets)
    exact record (last ▸ dropped)
  have same : s.event?.elim v v.follow = v := by
    cases hev : s.event? with
    | none => rfl
    | some e =>
      refine MuteView.follow_other v ?_ ?_
      · rintro sessions last rfl
        exact event?_ne_initialState hev
      · rintro kind id flag rfl
        exact told kind id flag hev
  have named (x : MuteKind × String) (flag : Bool) :
      .muteChanged x.1 x.2 flag ∈ events (ss ++ [s]) ↔ .muteChanged x.1 x.2 flag ∈ events ss := by
    rw [events_concat, List.mem_append, or_iff_left]
    intro hx
    exact told _ _ _ (Option.mem_toList.mp hx)
  rw [same]
  refine ⟨?_, h.target_marked, fun x outside => ?_⟩
  · rw [last, forgottenSince_concat ss quiet, keeps, Bool.or_false]
    exact h.target
  · simp only [flags x outside, named]
    exact h.marked x outside

/-- A view does not hear of it when the record is dropped. -/
theorem Sees.of_forgets (h : Sees v₀ v s.before.roster ss) (silent : s.event? = none)
    (forgets : s.forgets = true) (flags : s.after.roster.flag? = s.before.roster.flag?) :
    Sees v₀ v s.after.roster (ss ++ [s]) := by
  have quiet : s.mutes = false := by rw [Step.mutes, silent]
  obtain ⟨-, dropped⟩ := lastMuted_of_forgets forgets
  refine ⟨?_, h.target_marked, ?_⟩
  · rw [dropped, forgottenSince_concat ss quiet, forgets, Bool.or_true]
    rfl
  · rw [flags, events_concat, silent, Option.toList_none, List.append_nil]
    exact h.marked

/-- What is marked outside after a step that tells of the mute of `x`, provided that it is what
was marked before but for `x`, with the flag that is told. -/
theorem Sees.marked_concat {v' : MuteView} {ro' : Roster} {x : MuteKind × String} {flag : Bool}
    (h : Sees v₀ v s.before.roster ss) (told : s.event? = some (.muteChanged x.1 x.2 flag))
    (flags : ro'.flag? = Function.update s.before.roster.flag? x (some flag))
    (marks : ∀ y, y ∈ v'.marked ↔ if y = x then flag = true else y ∈ v.marked)
    (y : MuteKind × String) (outside : y.1 ≠ .session) :
    y ∈ v'.marked ↔ ro'.flag? y = some true ∧
      (y ∈ v₀.marked ∨ ∃ flag, .muteChanged y.1 y.2 flag ∈ events (ss ++ [s])) := by
  rw [marks, flags, events_concat, told]
  by_cases hy : y = x
  · subst hy
    rw [if_pos rfl, Function.update_self, Option.some_inj]
    refine (and_iff_left (.inr ⟨flag, ?_⟩)).symm
    simp
  · have other (flag' : Bool) : Event.muteChanged y.1 y.2 flag' ≠ .muteChanged x.1 x.2 flag := by
      intro he
      injection he with hk hid
      exact hy (Prod.ext hk hid)
    rw [if_neg hy, Function.update_of_ne hy, h.marked y outside]
    simp [other]

/-- A view unmarks what a step tells to be unmuted. -/
theorem Sees.of_unmarked {x : MuteKind × String} (h : Sees v₀ v s.before.roster ss)
    (told : s.event? = some (.muteChanged x.1 x.2 false))
    (flags : s.after.roster.flag? = Function.update s.before.roster.flag? x (some false))
    (keeps : s.forgets = false) (record : s.after.roster.lastMuted.map MuteRecord.target =
      (s.before.roster.lastMuted.map MuteRecord.target).filter (· ≠ x)) :
    Sees v₀ (s.event?.elim v v.follow) s.after.roster (ss ++ [s]) := by
  have quiet : s.mutes = false := by rw [Step.mutes, told]
  have followed : s.event?.elim v v.follow = v.unmark x := by rw [told]; rfl
  rw [followed]
  refine ⟨?_, fun y hy => ?_, h.marked_concat told flags fun y => ?_⟩
  · rw [record, forgottenSince_concat ss quiet, keeps, Bool.or_false, h.target, MuteView.unmark]
    split <;> rfl
  · obtain ⟨target, other⟩ := Option.filter_eq_some_iff.mp hy
    exact Finset.mem_erase.mpr ⟨by simpa using other, h.target_marked y target⟩
  · show y ∈ v.marked.erase x ↔ _
    rw [Finset.mem_erase]
    split <;> simp_all

/-- **Every step keeps what a view sees.** -/
theorem Sees.step (h : Sees v₀ v s.before.roster ss) :
    Sees v₀ (s.event?.elim v v.follow) s.after.roster (ss ++ [s]) := by
  rcases s.muteEffect with ⟨q, now, ask, he⟩ | ⟨same, silent⟩
  · obtain ⟨ev, hev⟩ : ∃ ev, s.event? = ev := ⟨_, rfl⟩
    rw [hev] at he
    cases he with
    | kept flags last told => exact h.of_kept last (fun _ _ => by rw [flags]) (hev ▸ told)
    | registered _ _ flags last | unregistered _ flags last =>
      refine h.of_kept last (fun x outside => ?_) (by simp [hev])
      rw [flags, update_session_of_outside outside]
    | muted kind id flag flags last =>
      have mutes : s.mutes = true := by rw [Step.mutes, hev]
      rw [hev]
      refine ⟨?_, fun x hx => ?_, h.marked_concat (x := (kind, id)) hev flags fun y => ?_⟩
      · rw [last, forgottenSince_of_mutes ss mutes]
        rfl
      · obtain rfl := Option.some.inj hx
        exact Finset.mem_insert_self _ _
      · show y ∈ insert (kind, id) v.marked ↔ _
        rw [Finset.mem_insert]
        split <;> simp_all
    | unmuted kind id flag flags last =>
      have keeps : s.forgets = false := by rw [Step.forgets, ask]
      have record : s.after.roster.lastMuted.map MuteRecord.target =
          (s.before.roster.lastMuted.map MuteRecord.target).filter (· ≠ (kind, id)) := by
        rw [last, Roster.lastMutedIs]
        cases s.before.roster.lastMuted with
        | none => rfl
        | some r =>
          by_cases hr : r.kind = kind ∧ r.id = id <;>
            simp [MuteRecord.target, Option.filter_some, hr]
      exact h.of_unmarked hev flags keeps record
    | undone r record there flags last =>
      have keeps : s.forgets = false := by rw [Step.forgets, ask, hev]; simp
      refine h.of_unmarked (x := r.target) hev flags keeps ?_
      rw [last, record, Option.map_some, Option.filter_some, if_neg (by simp)]
      rfl
    | lost r record gone flags last =>
      rw [hev]
      exact h.of_forgets hev (by rw [Step.forgets, ask, record, hev]; rfl) flags
    | forgotten r record flags last =>
      rw [hev]
      exact h.of_forgets hev (by rw [Step.forgets, ask, record]; rfl) flags
  · exact h.of_kept (by rw [same]) (fun _ _ => by rw [same]) (by simp [silent])

end sees

/-- A view from a first line sees what is on record, which is in force. -/
theorem sees_start (capacity limit : Nat) (before : List Action) :
    let ro := ((Watch.new capacity limit).run before).1.roster
    Sees (.ofRecord ro.lastMuted) (.ofRecord ro.lastMuted) ro [] := by
  intro ro
  have inForce (x : MuteKind × String) (outside : x.1 ≠ .session)
      (hx : x ∈ (MuteView.ofRecord ro.lastMuted).marked) : ro.flag? x = some true := by
    obtain ⟨r, record, rfl⟩ := Option.map_eq_some_iff.mp (Option.mem_toFinset.mp hx)
    exact flag?_of_record_outside capacity limit before record outside
  refine ⟨rfl, fun x hx => Option.mem_toFinset.mpr hx, fun x outside => ?_⟩
  constructor
  · intro hx
    exact ⟨inForce x outside hx, .inl hx⟩
  · rintro ⟨-, hx | ⟨flag, hx⟩⟩
    · exact hx
    · exact absurd hx List.not_mem_nil

/-- **A view that follows a run sees what it leads to.** -/
theorem sees_run (as : List Action) {w : Watch} {v : MuteView} (h : Sees v v w.roster []) :
    Sees v ((events (w.steps as)).foldl MuteView.follow v) (w.run as).1.roster (w.steps as) := by
  induction as using List.reverseRecOn with
  | nil => exact h
  | append_singleton as a ih =>
    rw [run_append_fst, steps_append, steps_cons, steps_nil, events_concat, List.foldl_append]
    have := ih.step (s := ⟨(w.run as).1, a⟩)
    cases told : Step.event? ⟨(w.run as).1, a⟩ with
    | none =>
      rw [told] at this
      exact this
    | some e =>
      rw [told] at this
      exact this

/-- A flag outside of which a step tells nothing stays. -/
theorem flag?_after_of_untold {s : Step} {x : MuteKind × String} (outside : x.1 ≠ .session)
    (untold : ∀ flag, s.event? ≠ some (.muteChanged x.1 x.2 flag)) :
    s.after.roster.flag? x = s.before.roster.flag? x := by
  have apart {kind : MuteKind} {id : String} {flag : Bool}
      (told : s.event? = some (.muteChanged kind id flag)) : x ≠ (kind, id) := by
    rintro rfl
    exact untold flag told
  rcases s.muteEffect with ⟨q, now, ask, he⟩ | ⟨same, -⟩
  · obtain ⟨ev, hev⟩ : ∃ ev, s.event? = ev := ⟨_, rfl⟩
    rw [hev] at he
    cases he with
    | kept flags | lost _ _ _ flags | forgotten _ _ flags => rw [flags]
    | registered _ _ flags | unregistered _ flags =>
      rw [flags, update_session_of_outside outside]
    | muted _ _ _ flags | unmuted _ _ _ flags | undone _ _ _ flags =>
      rw [flags]
      exact Function.update_of_ne (apart hev) _ _
  · rw [same]

/-- A flag outside of which nothing is told during a run stays. -/
theorem flag?_run_of_untold {x : MuteKind × String} (outside : x.1 ≠ .session) :
    ∀ (as : List Action) (w : Watch),
      (∀ flag, .muteChanged x.1 x.2 flag ∉ events (w.steps as)) →
      (w.run as).1.roster.flag? x = w.roster.flag? x
  | [], _, _ => rfl
  | a :: as, w, untold => by
    rw [run_cons_fst, flag?_run_of_untold outside as]
    · refine flag?_after_of_untold (s := ⟨w, a⟩) outside fun flag told => untold flag ?_
      exact List.mem_filterMap.mpr ⟨_, List.mem_cons_self, told⟩
    · intro flag hx
      obtain ⟨s, hs, told⟩ := List.mem_filterMap.mp hx
      exact untold flag (List.mem_filterMap.mpr ⟨s, List.mem_cons_of_mem _ hs, told⟩)

/-- **A view of the mutes is right about what it was told.** An observer on the list was sent its
first line and the lines of the letters to it. Following the events from there leads to the undo
that an observer learns of which comes at the end, unless the record was dropped since the last
mute and nobody was told; then the latter learns of none. What the latter marks is marked by the
former. Of the things outside the former marks those that are muted and of which it was told, in
its first line or since, and the flag of one of which it was not told since has not changed. -/
theorem mute_view_told (capacity limit n : Nat) (before after : List Action)
    (subscribed : (((Watch.new capacity limit).run before).1.act .subscribe).2 =
      .subscribed (.ok n)) :
    let start := ((Watch.new capacity limit).run before).1
    let watch := (start.act .subscribe).1
    let final := (watch.run after).1
    let mail := letters n (watch.steps after)
    let initial := Event.initialState start.roster.sessions start.roster.lastMuted
    let latest := Event.initialState final.roster.sessions final.roster.lastMuted
    let first := ({} : MuteView).follow initial
    let followed := (mail.filterMap Letter.event?).foldl MuteView.follow first
    let fresh := ({} : MuteView).follow latest
    (final.Lists n → stream n watch after = initial.line :: mail.map Letter.line) ∧
    (∀ k, (final.act .subscribe).2 = .subscribed (.ok k) →
      (final.act .subscribe).1.queue k = [latest.line]) ∧
    fresh.target = (if forgottenSince (watch.steps after) then none else followed.target) ∧
    fresh.marked ⊆ followed.marked ∧
    ∀ kind id, kind ≠ .session →
      ((kind, id) ∈ fresh.marked ↔ fresh.target = some (kind, id)) ∧
      ((kind, id) ∈ followed.marked ↔ final.roster.isMuted kind id = true ∧
        (first.target = some (kind, id) ∨ ∃ flag, .event (.muteChanged kind id flag) ∈ mail)) ∧
      ((∀ flag, .event (.muteChanged kind id flag) ∉ mail) →
        final.roster.isMuted kind id = start.roster.isMuted kind id) := by
  intro start watch final mail initial latest first followed fresh
  have hstart : start.Sound := sound_run capacity limit before
  have hfinal : final.Sound := (hstart.act .subscribe).run after
  have hbox := find?_act_subscribe hstart subscribed
  have same : watch.roster = start.roster := roster_subscribe start
  have sees : Sees first followed final.roster (watch.steps after) := by
    have atFirst : Sees first first watch.roster [] := by
      rw [same]
      exact sees_start capacity limit before
    have := sees_run after atFirst
    rwa [← events_letters n] at this
  have target : fresh.target =
      if forgottenSince (watch.steps after) then none else followed.target := sees.target
  have fresh_marked (x : MuteKind × String) : x ∈ fresh.marked ↔ fresh.target = some x :=
    Option.mem_toFinset
  have first_marked (x : MuteKind × String) : x ∈ first.marked ↔ first.target = some x :=
    Option.mem_toFinset
  refine ⟨fun hlisted => ?_, fun k hk => ?_, target, fun x hx => ?_, fun kind id outside => ?_⟩
  · rw [stream, queue_eq hbox, arrivals_of_lists hbox hlisted]
    rfl
  · exact queue_eq (find?_act_subscribe hfinal hk)
  · have hx := (fresh_marked x).mp hx
    rw [target] at hx
    split at hx
    · cases hx
    · exact sees.target_marked x hx
  · refine ⟨fresh_marked _, ?_, fun untold => ?_⟩
    · rw [sees.marked (kind, id) outside, Roster.isMuted_iff, first_marked]
      simp only [mem_events_iff (n := n)]
      rfl
    · have untold' (flag : Bool) : .muteChanged kind id flag ∉ events (watch.steps after) :=
        fun h => untold flag (mem_events_iff.mp h)
      have flag : final.roster.flag? (kind, id) = watch.roster.flag? (kind, id) :=
        flag?_run_of_untold (x := (kind, id)) outside after watch untold'
      rw [Roster.isMuted_eq, flag, same, ← Roster.isMuted_eq]

/-- Something is muted before and something after the observer comes, then a session is muted and
taken off, and to undo that is not told. -/
theorem mute_view_told_lost :
    let noon : Instant := ⟨⟨2024, 3, 1⟩, 43200, 0⟩
    let ask (r : Roster.Request) : Action := .ask r noon
    let before := [ask (.mute .repo "api")]
    let after := [ask (.mute .author "eve"), ask (.register ⟨"one", "", "/src", .claude⟩),
      ask (.mute .session "one"), ask (.unregister "one"), ask .undoMute]
    let start := ((Watch.new 8 2).run before).1
    let watch := (start.act .subscribe).1
    let final := (watch.run after).1
    let first := ({} : MuteView).follow (.initialState start.roster.sessions start.roster.lastMuted)
    let followed := ((letters 1 (watch.steps after)).filterMap Letter.event?).foldl
      MuteView.follow first
    let fresh := ({} : MuteView).follow
      (.initialState final.roster.sessions final.roster.lastMuted)
    (start.act .subscribe).2 = .subscribed (.ok 1) ∧ final.Lists 1 ∧
      (final.act .subscribe).2 = .subscribed (.ok 2) ∧
      (stream 1 watch after).length = 5 ∧ fresh.target = none ∧ fresh.marked ⊆ followed.marked ∧
      (.repo, "api") ∈ followed.marked ∧ (.author, "eve") ∈ followed.marked := by
  intro noon ask before after start watch final first followed fresh
  have subscribed : (start.act .subscribe).2 = .subscribed (.ok 1) := rfl
  have listed : final.Lists 1 := by decide
  have subscribed' : (final.act .subscribe).2 = .subscribed (.ok 2) := rfl
  obtain ⟨sent, -, target, fewer, outside⟩ := mute_view_told 8 2 1 before after subscribed
  have forgotten : forgottenSince (watch.steps after) = true := rfl
  have eve : .event (.muteChanged .author "eve" true) ∈ letters 1 (watch.steps after) :=
    List.mem_cons_self
  refine ⟨subscribed, listed, subscribed', ?_, ?_, fewer, ?_, ?_⟩
  · rw [sent listed]
    rfl
  · rw [target, if_pos forgotten]
  · exact (outside .repo "api" (by decide)).2.1.mpr ⟨by decide, .inl rfl⟩
  · exact (outside .author "eve" (by decide)).2.1.mpr ⟨by decide, .inr ⟨true, eve⟩⟩

/-- **A first line does not tell all that is muted.** Of two things that are muted an observer that
comes at the end learns of one. It learns of none to undo where the record was dropped, be it that
the mute was to be kept or that its session is gone; an observer that was there all the time still
holds the last mute to be the one to undo. -/
theorem mute_view_incomplete :
    let noon : Instant := ⟨⟨2024, 3, 1⟩, 43200, 0⟩
    let ask (r : Roster.Request) : Action := .ask r noon
    let watch := ((Watch.new 8 2).act .subscribe).1
    let followed (as : List Action) := ((letters 1 (watch.steps as)).filterMap Letter.event?).foldl
      MuteView.follow (({} : MuteView).follow (.initialState [] none))
    let fresh (as : List Action) := ({} : MuteView).follow
      (.initialState (watch.run as).1.roster.sessions (watch.run as).1.roster.lastMuted)
    let two := [ask (.mute .repo "api"), ask (.mute .repo "web")]
    let cleared := [ask (.mute .repo "api"), ask .clearLastMuted]
    let gone := [ask (.register ⟨"one", "", "/src", .claude⟩), ask (.mute .session "one"),
      ask (.unregister "one"), ask .undoMute]
    ((watch.run two).1.Lists 1 ∧
        (.repo, "api") ∈ (followed two).marked ∧ (.repo, "api") ∉ (fresh two).marked) ∧
      ((watch.run cleared).1.Lists 1 ∧
        (followed cleared).target = some (.repo, "api") ∧ (fresh cleared).target = none) ∧
      ((watch.run gone).1.Lists 1 ∧
        (followed gone).target = some (.session, "one") ∧ (fresh gone).target = none) :=
  ⟨⟨by decide, by decide, by decide⟩, ⟨by decide, rfl, rfl⟩, by decide, rfl, rfl⟩

end Watch

end SessionWatch
