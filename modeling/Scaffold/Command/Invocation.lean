import Scaffold.Command.Argument
import Scaffold.Command.Environment

namespace Scaffold

/-- How a project is generated. -/
structure GenerateOptions where
  /-- The path of the server description. -/
  input : String
  /-- The directory of the project; by default it is named after the server. -/
  output : Option String := none
  /-- The path of the settings; by default those of the user are taken. -/
  settings : Option String := none
  protocolVersion : Option String := none
  /-- Whether files that are there already may be overwritten. -/
  force : Bool := false
deriving DecidableEq, Repr

/-- How a generated file is shown. -/
structure PreviewOptions where
  /-- The path of the server description. -/
  input : String
  /-- The path of the file; by default it is the source of the server. -/
  file : Option String := none
  /-- The path of the settings; by default those of the user are taken. -/
  settings : Option String := none
  protocolVersion : Option String := none
deriving DecidableEq, Repr

/-- What the program can be asked to do. -/
inductive Command where
  | generate (options : GenerateOptions)
  | validate (input : String)
  | preview (options : PreviewOptions)
  | completions (shell : Shell)
deriving DecidableEq, Repr

/-- A command with what counts for all commands. -/
structure Invocation where
  command : Command
  /-- Whether the run tells what it does. -/
  verbose : Bool := false
  /-- The name of the format of reports. -/
  format : String := "pretty"
deriving DecidableEq, Repr

namespace CommandLine

/-- The path of the settings: the one that is given, or the one that a variable names. -/
def settings? (line : CommandLine) (env : Environment) : Except Interruption (Option String) :=
  match line.inner.get? .settings with
  | some path => .ok path
  | none =>
    match env.get? "MCP_FORGE_SETTINGS" with
    | some path => if path.isEmpty then .error .misuse else .ok path
    | none => .ok none

/-- The command of a command line, which must hold the word that the command takes. -/
def command (line : CommandLine) (env : Environment) : Except Interruption Command :=
  match line.inner.word with
  | none => .error .misuse
  | some word =>
    match line.name with
    | .generate => do return .generate {
        input := word
        output := line.inner.get? .output
        settings := ← line.settings? env
        protocolVersion := line.inner.get? .protocolVersion
        force := line.inner.has .force }
    | .validate => .ok (.validate word)
    | .preview => do return .preview {
        input := word
        file := line.inner.get? .file
        settings := ← line.settings? env
        protocolVersion := line.inner.get? .protocolVersion }
    | .completions =>
      match Shell.ofName? word with
      | some shell => .ok (.completions shell)
      | none => .error .misuse

/-- What a command line asks for. A format behind the name of the command counts more than one
before it. -/
def invocation (line : CommandLine) (env : Environment) : Except Interruption Invocation := do
  return {
    command := ← line.command env
    verbose := line.outer.has .verbose || line.inner.has .verbose
    format := ((line.inner.get? .format).or (line.outer.get? .format)).getD "pretty" }

end CommandLine

/-- What the arguments of a run ask for. -/
def Invocation.read (env : Environment) (arguments : List String) :
    Except Interruption Invocation := do
  (← CommandLine.read arguments).invocation env

end Scaffold
