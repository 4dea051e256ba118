import Scaffold.Command.Invocation
import Scaffold.Command.Load
import Scaffold.Report.Format
import Scaffold.Report.Validation

/-!
The command that generates a project. Whatever speaks against it is found before anything is
written: a run that is refused leaves all files as they are.
-/

namespace Scaffold

variable {m : Type → Type} [Monad m] [FileAccess m]

/-- What a run has generated. -/
structure GenerationReport where
  serverName : String
  language : Language
  outputDirectory : String
  toolCount : Nat
  /-- The paths of the files below the output directory. -/
  files : List String
  totalBytes : Nat
deriving DecidableEq

namespace GenerationReport

/-- The report on a project of a server. -/
def ofProject (server : Server) (directory : String) (project : Project) : GenerationReport where
  serverName := server.name
  language := server.language
  outputDirectory := directory
  toolCount := server.tools.length
  files := project.files.map (·.path)
  totalBytes := project.totalBytes

/-- The report as JSON. -/
def toJson (r : GenerationReport) : Json := .object [
  ("server_name", .string r.serverName),
  ("language", .string r.language.name),
  ("output_dir", .string r.outputDirectory),
  ("tool_count", .ofNat r.toolCount),
  ("files", .array (r.files.map .string)),
  ("total_bytes", .ofNat r.totalBytes)]

end GenerationReport

namespace Command

/-- Refuses to go on if one of the paths leads to something. -/
def refuseTaken : List String → ExceptT Trouble m Unit
  | [] => return
  | path :: rest => do
    if ← (FileAccess.exists? path : m _) then
      throw { message := path ++ " already exists (use --force to overwrite)" }
    refuseTaken rest

/-- Writes a file below a directory. -/
def writeFile (directory : String) (file : ProjectFile) : ExceptT Trouble m Unit := do
  let path := Path.join directory file.path
  orTrouble ("failed to write " ++ path) (FileAccess.write path file.content)
  if file.isExecutable then
    orTrouble ("failed to mark " ++ path ++ " executable") (FileAccess.markExecutable path)

/-- Writes files below a directory, one after the other. -/
def writeFiles (directory : String) : List ProjectFile → ExceptT Trouble m Unit
  | [] => return
  | file :: rest => do
    writeFile directory file
    writeFiles directory rest

/-- Writes a project into a directory, which is made if there is none. Files that are there already
are only overwritten by force. -/
def writeProject (directory : String) (force : Bool) (project : Project) :
    ExceptT Trouble m Unit := do
  if !force then
    refuseTaken (project.files.map fun file => Path.join directory file.path)
  orTrouble ("failed to create " ++ directory) (FileAccess.makeDirectories directory)
  writeFiles directory project.files

/-- A value on the standard output, in the format of the run. -/
def shown (env : Environment) (format : OutputFormat) (value : Json) : String :=
  format.format env.colors value ++ "\n"

/-- Generates the project of a server that keeps all rules, and reports on it. -/
def generateValid (env : Environment) (format : OutputFormat) (options : GenerateOptions)
    (server : Server) : ExceptT Trouble m Outcome := do
  let settings ← loadSettings env options.settings options.protocolVersion
  let project ← projectOf server settings
  let directory := options.output.getD (Text.slugOf server.name)
  writeProject directory options.force project
  let report := GenerationReport.ofProject server directory project
  return { output := shown env format report.toJson }

/-- Generates a project. A server description that breaks a rule is reported on instead. -/
def generateProject [Pattern.SizeLimit] (env : Environment) (format : OutputFormat)
    (options : GenerateOptions) : ExceptT Trouble m Outcome :=
  withServer options.input fun server => do
    let report := ValidationReport.check {} server
    if report.valid then generateValid env format options server
    else return { status := .invalidInput, output := shown env format report.toJson }

end Command

end Scaffold
