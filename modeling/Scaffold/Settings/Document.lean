import Scaffold.Failure
import Scaffold.Settings.Basic
import Scaffold.Toml.Reader

/-!
Settings read from a TOML document. Only keys of the root table count; keys that are no settings are
passed over, and a setting that is no string makes the whole document unusable.
-/

namespace Scaffold.Settings

/-- The settings with one entry of a document. -/
def withEntry? (s : Settings) (key : String) (value : Toml.Node) : Option Settings :=
  if keys.contains key then
    match value with
    | .leaf (.string v) => s.set? key v
    | _ => none
  else some s

/-- The settings of a table. -/
def ofEntries? (entries : Toml.Entries) : Option Settings :=
  entries.foldlM (fun s (key, value) => s.withEntry? key value) {}

/-- The settings of a TOML text. -/
def ofToml (text : String) : Except Failure Settings :=
  match (Toml.parse? text).bind ofEntries? with
  | some s => .ok s
  | none => .error (.settings "Failed to parse generator settings: not a document of settings")

end Scaffold.Settings
