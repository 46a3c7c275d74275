import Scoreboard.Files.Tree
import Scoreboard.Settings.Codec

/-!
# Settings beside a feed

Settings are kept in a file beside the feed; without the file, the defaults hold.

## Main definitions

- `Settings.path` — where the settings of a folder are
- `Settings.load` — the settings of a folder
- `SettingsFailure` — why they cannot be loaded
-/

namespace Scoreboard

/-- What is wrong with a settings file. -/
inductive SettingsFault where
  /-- It is a folder. -/
  | folder
  /-- Its bytes are no text. -/
  | notText
  /-- Its text is a document that holds no settings. -/
  | content (document : String) (error : SettingsError)
  deriving DecidableEq

/-- Why settings cannot be loaded. -/
structure SettingsFailure where
  path : String
  /-- What is wrong with it. -/
  fault : SettingsFault
  deriving DecidableEq

namespace SettingsFault

/-- What was tried in vain. -/
def attempt : SettingsFault → String
  | content _ _ => "Failed to parse"
  | _ => "Failed to read"

/-- The wording of what is wrong. -/
def message : SettingsFault → String
  | folder => "Is a directory (os error 21)"
  | notText => "stream did not contain valid UTF-8"
  | content document error => error.describe document

end SettingsFault

namespace SettingsFailure

/-- The wording of what was tried in vain, and where. -/
def headline (failure : SettingsFailure) : String :=
  failure.fault.attempt ++ " config.toml at " ++ failure.path

/-- The wording of why settings cannot be loaded. -/
def message (failure : SettingsFailure) : String :=
  failure.headline ++ ": " ++ failure.fault.message

end SettingsFailure

namespace Settings

/-- Where the settings of a folder are. -/
def path (folder : String) : String :=
  FilePath.join folder "config.toml"

/-- The settings that a file or a folder in their place holds. -/
def ofNode : FileNode → Except SettingsFault Settings
  | .folder => .error .folder
  | .file bytes =>
    match String.fromUTF8? (ByteArray.mk bytes.toArray) with
    | none => .error .notText
    | some document => (parse document).mapError (.content document)

/-- The settings of a folder; the defaults, if it has no settings file. -/
def load (files : FileTree) (folder : String) : Except SettingsFailure Settings :=
  match files.node? (path folder) with
  | none => .ok {}
  | some node => (ofNode node).mapError fun fault => ⟨path folder, fault⟩

end Settings

end Scoreboard
