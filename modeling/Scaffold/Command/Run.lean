import Scaffold.Command.Generate
import Scaffold.Command.Usage
import Scaffold.Pattern.Estimate

namespace Scaffold

variable {m : Type → Type} [Monad m] [FileAccess m]

namespace Command

/-- Checks a server description and reports on it. -/
def validateServer [Pattern.SizeLimit] (env : Environment) (format : OutputFormat)
    (input : String) : ExceptT Trouble m Outcome :=
  withServer input fun server => do
    let report := ValidationReport.check {} server
    return {
      status := if report.valid then .success else .invalidInput
      output := shown env format report.toJson }

/-- A generated file as it is shown: in the JSON format with its path, otherwise as it is. -/
def shownFile (env : Environment) (format : OutputFormat) (file : ProjectFile) : String :=
  match format with
  | .json => shown env format file.toJson
  | .text | .pretty => file.content

/-- Shows a file of a project that is not written anywhere. The server description may break rules.
-/
def previewFile (env : Environment) (format : OutputFormat) (options : PreviewOptions) :
    ExceptT Trouble m Outcome :=
  withServer options.input fun server => do
    let settings ← loadSettings env options.settings options.protocolVersion
    let project ← projectOf server settings
    match project.select options.file with
    | .ok file => return { output := shownFile env format file }
    | .error unknown => throw { message := unknown.message }

/-- Runs a command. -/
def run [Pattern.SizeLimit] (env : Environment) (format : OutputFormat) :
    Command → ExceptT Trouble m Outcome
  | .generate options => generateProject env format options
  | .validate input => validateServer env format input
  | .preview options => previewFile env format options
  | .completions shell => return { output := shell.completions }

end Command

/-- Runs what was asked for. The name of the format is looked at first, whatever the command is. -/
def Invocation.run [Pattern.SizeLimit] (env : Environment) (invocation : Invocation) :
    m Outcome := do
  match OutputFormat.parse invocation.format with
  | .error failure => return .ofTrouble (.ofFailure failure)
  | .ok format =>
    match ← (invocation.command.run env format).run with
    | .ok outcome => return outcome
    | .error trouble => return .ofTrouble trouble

/-- The outcome of a run that leads to no command. -/
def Interruption.outcome : Interruption → Outcome
  | misuse => { status := .invalidInput, errors := misuseText }
  | help => { output := helpText }
  | version => { output := versionText }

/-- Runs the program. The sizes of patterns are estimated. -/
def runProgram (env : Environment) (arguments : List String) : m Outcome :=
  match Invocation.read env arguments with
  | .ok invocation => invocation.run env
  | .error interruption => return interruption.outcome

end Scaffold
