import Scaffold.Files.Path

namespace Scaffold

/-- The variables of a run, and whether its output goes to a terminal. -/
structure Environment where
  bindings : List (String × String) := []
  terminal : Bool := false

namespace Environment

/-- The names of the variables that count. -/
def names : List String := [
  "MCP_FORGE_SETTINGS", "XDG_CONFIG_HOME", "HOME", "CLICOLOR", "CLICOLOR_FORCE", "NO_COLOR"]

/-- The value of a variable; of two with one name the first counts. -/
def get? (env : Environment) (name : String) : Option String := env.bindings.lookup name

/-- Whether a variable is there and switched on. -/
def isOn (env : Environment) (name : String) : Bool := (env.get? name).any (· ≠ "0")

/-- Whether a variable is there and switched off. -/
def isOff (env : Environment) (name : String) : Bool := env.get? name == some "0"

/-- Whether the output has colours: if they are forced, or if it goes to a terminal and they are not
switched off. -/
def colors (env : Environment) : Bool :=
  env.isOn "CLICOLOR_FORCE" ||
    ((env.get? "NO_COLOR").isNone && env.terminal && !env.isOff "CLICOLOR")

/-- The directory of the user's settings of all programs. -/
def configDirectory? (env : Environment) : Option String :=
  match (env.get? "XDG_CONFIG_HOME").filter Path.isAbsolute with
  | some directory => some directory
  | none => ((env.get? "HOME").filter (!·.isEmpty)).map fun home => Path.join home ".config"

/-- The file of the user's settings. -/
def settingsPath? (env : Environment) : Option String :=
  env.configDirectory?.map fun directory =>
    Path.join (Path.join directory "mcp-forge") "config.toml"

end Environment

end Scaffold
