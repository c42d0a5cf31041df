/-
# A settings file holds its settings

The content of a settings file is decoded as the settings that it was written
from. Events stand in the order of their names, each once, as the settings keep
them, and a time limit fits its field; nothing is asked of the texts.

Key definitions: `HookSettings.WellFormed`.
Key theorems: `HookSettings.decode_fileContent`,
`HookSettings.wellFormed_forSession`.
-/
import SessionWatch.Hooks.Generate
import SessionWatch.Hooks.Save
import SessionWatch.Proofs.Schema.PrettyReading

namespace SessionWatch

/-- The seconds a command may take fit their field. -/
def HookCommand.WellFormed (h : HookCommand) : Prop := ∀ n ∈ h.timeout, n < Nat.pow 2 32

instance (h : HookCommand) : Decidable h.WellFormed :=
  inferInstanceAs (Decidable (∀ n ∈ h.timeout, n < Nat.pow 2 32))

namespace HookSettings

/-- Events are kept in the order of their names, each once, and each time limit fits its field. -/
structure WellFormed (s : HookSettings) : Prop where
  sorted : s.hooks.Pairwise fun m m' => m.1 < m'.1
  fits : ∀ m ∈ s.hooks, ∀ e ∈ m.2, ∀ h ∈ e.hooks, h.WellFormed

end HookSettings

variable {d : Nat}

theorem HookCommand.readsLines {h : HookCommand} (wf : h.WellFormed) :
    shape.ReadsLines (d + 1) h := by
  obtain ⟨kind, command, timeout⟩ := h
  have texts (t : String) : textShape.ReadsLines d t := Shape.readsLines_text _ t d
  refine Shape.readsLines_record (by decide) ⟨texts kind, texts command, ?_, trivial⟩ rfl
  cases timeout with
  | none => rfl
  | some n =>
    have below : n < Nat.pow 2 32 := wf n rfl
    exact (Shape.readsLines_count "u32" below (by decide) d).some nofun

theorem HookEntry.readsLines {e : HookEntry} (wf : ∀ h ∈ e.hooks, h.WellFormed) :
    shape.ReadsLines (d + 3) e :=
  Shape.readsLines_record (by decide)
    ⟨Shape.readsLines_text _ _ (d + 2),
      Shape.readsLines_list fun h hh => HookCommand.readsLines (wf h hh), trivial⟩ rfl

namespace HookSettings

theorem readsLines {s : HookSettings} (wf : s.WellFormed) : shape.ReadsLines (d + 6) s :=
  Shape.readsLines_record (by decide)
    ⟨Shape.readsLines_dict wf.sorted fun m hm =>
      Shape.readsLines_list fun e he => HookEntry.readsLines (wf.fits m hm e he), trivial⟩ rfl

/-- **A settings file is decoded as the settings that it was written from.** -/
theorem decode_fileContent {s : HookSettings} (wf : s.WellFormed) :
    decode s.fileContent = .ok s :=
  Shape.decode_lines (readsLines wf)

/-- The settings of any session are well formed. -/
theorem wellFormed_forSession (id socket wrapper : String) :
    (forSession id socket wrapper).WellFormed where
  sorted := by
    have sorted : (hookTable.map Prod.fst).Pairwise (· < ·) := by decide
    exact List.pairwise_map.mpr (List.pairwise_map.mp sorted)
  fits := by
    intro m hm e he h hh
    obtain ⟨⟨event, calls⟩, -, rfl⟩ := List.mem_map.mp hm
    obtain ⟨⟨matcher, call⟩, -, rfl⟩ := List.mem_map.mp he
    obtain rfl := List.mem_singleton.mp hh
    intro n hn
    simp only [HookCall.command] at hn
    split at hn
    · cases hn
      decide
    · cases hn

end HookSettings

end SessionWatch
