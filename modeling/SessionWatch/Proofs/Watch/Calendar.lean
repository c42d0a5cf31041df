/-
# Instants in a roster and in its events

Every instant in a roster, and in what is told of it, was read off the clock
when a request put it down. So where all readings are ones that clocks and
calendars show, each event of a run is read back from its line, and so is the
first line of an observer.

A request that is not dated comes out the same at any time, so only the times
that are put down have to be of the calendar.

Key definitions: `Roster.InCalendar`.
Key theorems: `Roster.InCalendar.ask`, `Watch.inCalendar_run`,
`Watch.ofLine?_initialLine`.
-/
import SessionWatch.Proofs.Roster.Mute
import SessionWatch.Proofs.Watch.History
import SessionWatch.Proofs.Wire.OutgoingLine

namespace SessionWatch

namespace Roster

/-- The instants of all sessions, and the one of the last mute, are ones that clocks show. -/
structure InCalendar (ro : Roster) : Prop where
  session : ∀ {id e}, ro.find? id = some e → e.session.InCalendar
  record : ∀ r ∈ ro.lastMuted, r.mutedAt.InCalendar

theorem inCalendar_empty : ({} : Roster).InCalendar :=
  ⟨nofun, nofun⟩

section ask

variable {ro ro' : Roster} {now : Instant} {ev : Option Event}

/-- What is put in place of an entry is as good as what it replaces. -/
theorem inCalendar_put (h : ∀ {id e}, ro.find? id = some e → e.session.InCalendar) {id : String}
    {new : Entry} (dated : new.session.InCalendar) {id' : String} {e : Entry}
    (found : (ro.put id new).find? id' = some e) : e.session.InCalendar := by
  rw [find?_put] at found
  split at found
  · exact Option.some.inj found ▸ dated
  · exact h found

/-- An effect at a time of the calendar puts no other times down, and tells none. -/
theorem Effect.inCalendar (h : ∀ {id e}, ro.find? id = some e → e.session.InCalendar)
    (dated : now.InCalendar) (he : ro.Effect now ro' ev) :
    (∀ {id e}, ro'.find? id = some e → e.session.InCalendar) ∧ ∀ e ∈ ev, e.InCalendar := by
  have bumped {id e} (found : ro.nextRevision.find? id = some e) : e.session.InCalendar := h found
  cases he with
  | quiet entries revision => exact ⟨fun found => h (find?_congr entries _ ▸ found), by simp⟩
  | registered r =>
    have fresh : (Session.fresh r now).InCalendar := ⟨dated, dated, dated⟩
    refine ⟨inCalendar_put bumped fresh, ?_⟩
    rintro _ ⟨⟩
    exact fresh
  | unregistered found =>
    refine ⟨fun {id e} kept => ?_, ?_⟩
    · rw [find?_others] at kept
      split at kept
      · cases kept
      · exact h kept
    · rintro _ ⟨⟩
      trivial
  | @stateSet id e found s =>
    have changed : (e.withState s (ro.lastRevision + 1) now).session.InCalendar :=
      ⟨(h found).registered, dated, dated⟩
    refine ⟨inCalendar_put bumped changed, ?_⟩
    rintro _ ⟨⟩
    exact changed
  | @todosSet id e found todos =>
    have changed : (e.withTodos todos now).session.InCalendar :=
      ⟨(h found).registered, dated, dated⟩
    refine ⟨inCalendar_put h changed, ?_⟩
    rintro _ ⟨⟩
    trivial
  | @touched id e found =>
    have changed : (e.seen now).session.InCalendar :=
      ⟨(h found).registered, (h found).updated, dated⟩
    exact ⟨inCalendar_put h changed, by simp⟩
  | @sessionMuted id e _ found flag entries revision =>
    have changed : (e.withMuted flag).session.InCalendar :=
      ⟨(h found).registered, (h found).updated, (h found).seen⟩
    refine ⟨fun {id' e'} found' => ?_, ?_⟩
    · rw [find?_congr entries] at found'
      exact inCalendar_put h changed found'
    · rintro _ ⟨⟩
      trivial
  | otherMuted id flag outside entries revision =>
    refine ⟨fun found => h (find?_congr entries _ ▸ found), ?_⟩
    rintro _ ⟨⟩
    trivial

/-- The record of a mute has its time. -/
theorem MuteEffect.inCalendar (h : ∀ r ∈ ro.lastMuted, r.mutedAt.InCalendar)
    (dated : now.InCalendar) {q : Request} (he : MuteEffect ro now ro' q ev) :
    ∀ r ∈ ro'.lastMuted, r.mutedAt.InCalendar := by
  have none_there (last : ro'.lastMuted = none) : ∀ r ∈ ro'.lastMuted, r.mutedAt.InCalendar :=
    last ▸ fun r hr => absurd hr (Option.not_mem_none r)
  cases he with
  | kept flags last | registered r replaced flags last | unregistered id flags last =>
    exact last ▸ h
  | muted kind id flag flags last =>
    rw [last]
    rintro _ ⟨⟩
    exact dated
  | unmuted kind id flag flags last =>
    split at last
    · exact none_there last
    · exact last ▸ h
  | undone r record there flags last | lost r record gone flags last
  | forgotten r record flags last => exact none_there last

/-- **A request keeps to the calendar**, and so does what is told of it, if the time that it puts
down is of the calendar. -/
theorem InCalendar.ask (h : ro.InCalendar) {r : Request}
    (dated : ∀ t ∈ Asked.reading? ⟨r, now, (ro.ask now r).result⟩, t.InCalendar) :
    (ro.ask now r).roster.InCalendar ∧ ∀ e ∈ (ro.ask now r).event, e.InCalendar := by
  have at_time {time : Instant} (shown : time.InCalendar) : (ro.ask time r).roster.InCalendar ∧
      ∀ e ∈ (ro.ask time r).event, e.InCalendar := by
    obtain ⟨session, told⟩ := (ask_effect ro time r).inCalendar h.session shown
    exact ⟨⟨session, (ask_muteEffect ro time r).inCalendar h.record shown⟩, told⟩
  cases read : Asked.reading? ⟨r, now, (ro.ask now r).result⟩ with
  | some t =>
    obtain rfl : t = now := Asked.eq_of_reading? read
    exact at_time (dated t read)
  | none =>
    -- the request would be the same at a time that is of the calendar
    let epoch : Instant := ⟨⟨1970, 1, 1⟩, 0, 0⟩
    have shown : epoch.InCalendar := ⟨by decide, by decide⟩
    rw [← ask_of_unread read epoch]
    exact at_time shown

end ask

end Roster

namespace Watch

theorem inCalendar_step {s : Step} (h : s.before.roster.InCalendar)
    (dated : ∀ t ∈ s.reading?, t.InCalendar) :
    s.after.roster.InCalendar ∧ ∀ e ∈ s.event?, e.InCalendar := by
  obtain ⟨w, a⟩ := s
  cases a with
  | ask r now =>
    show (w.act (.ask r now)).1.roster.InCalendar ∧ _
    rw [roster_act_ask]
    exact h.ask dated
  | subscribe | sendTo | remove | take | drain | drop =>
    show (w.act _).1.roster.InCalendar ∧ _
    rw [roster_act (by simp)]
    exact ⟨h, fun e told => absurd told (Option.not_mem_none e)⟩

/-- **All along a run the roster and the events keep to the calendar**, if the readings do. -/
theorem inCalendar_run {w : Watch} (h : w.roster.InCalendar) {as : List Action}
    (dated : ∀ t ∈ readings (w.steps as), t.InCalendar) :
    (w.run as).1.roster.InCalendar ∧ ∀ e ∈ events (w.steps as), e.InCalendar := by
  have shown : ∀ s ∈ w.steps as, ∀ t ∈ s.reading?, t.InCalendar := fun s hs t ht =>
    dated t (List.mem_filterMap.mpr ⟨s, hs, ht⟩)
  obtain ⟨final, before⟩ := run_keeps_while (P := fun w => w.roster.InCalendar)
    (fun s h read => (inCalendar_step h read).1) as w h shown
  refine ⟨final, fun e he => ?_⟩
  obtain ⟨s, hs, told⟩ := List.mem_filterMap.mp he
  exact (inCalendar_step (before s hs) (shown s hs)).2 e told

/-- What an observer starts from is read back from its first line. -/
theorem ofLine?_initialLine {w : Watch} (hw : w.Sound) (h : w.roster.InCalendar) :
    Event.ofLine? w.initialLine =
      some (.initialState w.roster.sessions w.roster.lastMuted) := by
  refine Event.ofLine?_line ⟨fun s hs => ?_, h.record⟩
  obtain ⟨⟨id, e⟩, he, rfl⟩ := Roster.mem_sessions.mp hs
  exact h.session (hw.roster.find?_iff.mpr he)

end Watch

end SessionWatch
