/-
# A settings file is replaced whole or not at all

Settings are saved by replacing a file. Where that succeeds, the file holds the
text of the settings and a line feed, from which the same settings are decoded,
and no other file has changed. Where it fails, whichever call to the system was
the last one, no file has changed.

Key definitions: `HookSettings.Saved`, `HookSettings.Saving`.
Key theorems: `HookSettings.save_whole_or_not`.
-/
import SessionWatch.Proofs.Files.Draft
import SessionWatch.Proofs.Hooks.SettingsText

namespace SessionWatch.HookSettings

open Text (utf8)

variable {s : HookSettings} {fs after : Files} {path : String}

/-- The file at a path has become that of the settings, and no other file has changed. -/
structure Saved (s : HookSettings) (fs after : Files) (path : String) : Prop where
  replaced : ∃ p, after.lookup path = .ok (p, .file (utf8 (s.text ++ "\n"))) ∧
    ∀ q, q ≠ p → after.content? q = fs.content? q
  decoded : decode (utf8 (s.text ++ "\n")) = .ok s

/-- The calls that save settings, as far as they are made. -/
abbrev Saving (s : HookSettings) (path : String) (fs after : Files) (stage : Files.Stage) : Prop :=
  Files.Run path s.fileContent (fs, .start) (after, stage)

theorem replace_of_save (h : s.save fs path = (after, .ok ())) :
    fs.replace path s.fileContent = (after, .ok ()) := by
  unfold save at h
  split at h
  · next replaced =>
    cases h
    exact replaced
  · cases h

theorem save_of_replace (h : fs.replace path s.fileContent = (after, .ok ())) :
    s.save fs path = (after, .ok ()) := by
  unfold save
  rw [h]

/-- Where settings are saved, the file holds them, and no other file has changed. -/
theorem saved_of_save (wf : s.WellFormed) (h : s.save fs path = (after, .ok ())) :
    s.Saved fs after path :=
  ⟨Files.replace_ok (replace_of_save h), decode_fileContent wf⟩

/-- **A settings file is replaced whole or not at all**, and until its last call is made no file
but the draft differs. Where a draft can be begun, a save that the tree allows can be carried out
call by call. -/
theorem save_whole_or_not (wf : s.WellFormed) (fs : Files) (path : String) :
    (∀ after, s.save fs path = (after, .ok ()) → s.Saved fs after path) ∧
    (∀ after m, s.save fs path = (after, .error m) → after.files = fs.files) ∧
    (∀ after, s.Saving path fs after .done → s.save fs path = (after, .ok ())) ∧
    (∀ after why, s.Saving path fs after (.failed why) → after.files = fs.files) ∧
    (∀ after draft left, s.Saving path fs after (.draft draft left) →
      fs.content? draft = none ∧ ∀ p, p ≠ draft → after.content? p = fs.content? p) ∧
    (fs.HasDraft path →
      ∀ after, s.save fs path = (after, .ok ()) → s.Saving path fs after .done) := by
  refine ⟨fun after saved => saved_of_save wf saved, fun after m failed => ?_,
    fun after run => ?_, fun after why run => ?_, fun after draft left run => ?_,
    fun draft after saved => ?_⟩
  · exact files_of_save_error failed
  · exact save_of_replace (Files.Run.replace_done run)
  · exact Files.Run.files_failed run
  · exact Files.Run.content?_draft run
  · exact (Files.run_of_replace draft).1 after (replace_of_save saved)

/-- The settings of a session take the place of a stale file, also call by call; below a file they
cannot be saved. -/
theorem save_whole_or_not_stale :
    let s := forSession "abc" "/tmp/attn.sock" "attn"
    let fs : Files :=
      { files := [(["home", "settings.json"], utf8 "stale"), (["home", "notes"], utf8 "kept")] }
    s.WellFormed ∧
      (∃ after, s.save fs "/home/settings.json" = (after, .ok ()) ∧
        s.Saved fs after "/home/settings.json" ∧
        s.Saving "/home/settings.json" fs after .done) ∧
      ∃ after m, s.save fs "/home/notes/settings.json" = (after, .error m) ∧
        after.files = fs.files := by
  intro s fs
  have wf : s.WellFormed := wellFormed_forSession _ _ _
  have draft : fs.HasDraft "/home/settings.json" :=
    ⟨fs, ["home"], ".tmpAb12Cd", rfl, rfl, ⟨rfl, rfl⟩⟩
  obtain ⟨whole, -, -, -, -, byCalls⟩ := save_whole_or_not wf fs "/home/settings.json"
  refine ⟨wf, ⟨_, rfl, whole _ rfl, byCalls draft _ rfl⟩, ⟨_, _, rfl, ?_⟩⟩
  exact (save_whole_or_not wf fs "/home/notes/settings.json").2.1 _ _ rfl

end SessionWatch.HookSettings
