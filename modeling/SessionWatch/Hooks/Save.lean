/-
# Saving hook settings

A settings file is replaced as a whole, and its text ends with a line feed.

Key definitions: `HookSettings.fileContent`, `HookSettings.save`.
Key theorems: `HookSettings.files_of_save_error`.
-/
import SessionWatch.Files.Replace
import SessionWatch.Hooks.Settings

namespace SessionWatch.HookSettings

/-- The content of a settings file. -/
def fileContent (s : HookSettings) : Bytes := Text.utf8 (s.text ++ "\n")

/-- Replaces the settings file at a path, or says why that failed. -/
def save (s : HookSettings) (fs : Files) (path : String) : Files × Except String Unit :=
  match fs.replace path s.fileContent with
  | (fs, .ok ()) => (fs, .ok ())
  | (fs, .error why) => (fs, .error ("Settings write failed: " ++ path ++ ": " ++ why.message))

/-- A failed save changes no file. -/
theorem files_of_save_error {s : HookSettings} {fs fs' : Files} {path m : String}
    (h : s.save fs path = (fs', .error m)) : fs'.files = fs.files := by
  unfold save at h
  split at h
  · simp at h
  · next h' => cases h; exact Files.replace_error h'

end SessionWatch.HookSettings
