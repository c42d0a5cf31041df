/-
# Loading the configuration

The configuration is a TOML file. Without the file everything has its default;
a file that cannot be read, or does not describe a configuration, is refused.

Key definitions: `Config.ofToml?`, `Config.load`.
-/
import SessionWatch.Config.Basic
import SessionWatch.Files.Tree
import SessionWatch.Toml.Reader

namespace SessionWatch.Config

/-- Why a configuration is not loaded. -/
inductive LoadFault where
  | unreadable
  | malformed
  deriving DecidableEq

/-- What is told about a configuration that is not loaded. -/
def LoadFault.message : LoadFault → String
  | .unreadable => "Failed to read config"
  | .malformed => "Failed to parse config"

/-- The configuration that a text describes, with every bound in force. -/
def ofToml? (text : String) : Option Config :=
  match Toml.parse? text with
  | none => none
  | some table =>
    match shape.ofJson .settings table with
    | .error _ => none
    | .ok c => some c.normalized

/-- The configuration in a file. -/
def load (fs : Files) (path : String) : Except LoadFault Config :=
  match fs.lookup path with
  | .error _ => .ok {}
  | .ok (_, .file content) =>
    match Text.ofUtf8? content with
    | none => .error .unreadable
    | some text => (ofToml? text).elim (.error .malformed) .ok
  | .ok (_, _) => .error .unreadable

end SessionWatch.Config
