import Scaffold.Command.Environment
import Scaffold.Command.Outcome
import Scaffold.Files.Access
import Scaffold.Project.Generate
import Scaffold.Server.Decode
import Scaffold.Settings.Document

namespace Scaffold

variable {m : Type → Type} [Monad m] [FileAccess m]

namespace Command

/-- The answer of the file system, where a refusal is the cause that something could not be done. -/
def orTrouble {α : Type} (message : String) (answer : m (Except FileProblem α)) :
    ExceptT Trouble m α := do
  match ← (answer : m _) with
  | .ok a => return a
  | .error problem => throw { message, causes := [problem.message] }

/-- The text of a server description. -/
def readDescription (path : String) : ExceptT Trouble m String :=
  orTrouble ("failed to read server description " ++ path) (FileAccess.read path)

/-- The outcome of a run whose server description cannot be understood. -/
def malformed (path : String) (failure : Failure) : Outcome where
  status := .invalidInput
  errors := "error: " ++ path ++ ": " ++ failure.message ++ "\n"

/-- Reads a server description and goes on with it, unless it cannot be understood. -/
def withServer (path : String) (next : Server → ExceptT Trouble m Outcome) :
    ExceptT Trouble m Outcome := do
  match Server.ofText (← readDescription path) with
  | .ok server => next server
  | .error failure => return malformed path failure

/-- What could not be done when there are no settings. -/
def settingsTrouble (causes : List String) : Trouble :=
  { message := "failed to load generator settings", causes }

/-- The settings of the file under a path. -/
def settingsFrom (path : String) : ExceptT Trouble m Settings := do
  match ← (FileAccess.read path : m _) with
  | .error problem =>
    throw (settingsTrouble [(Failure.file path problem.message).message, problem.message])
  | .ok text =>
    match Settings.ofToml text with
    | .ok settings => return settings
    | .error failure => throw (settingsTrouble [failure.message])

/-- The settings of the user, where there is a file of them. -/
def userSettings (env : Environment) : ExceptT Trouble m Settings := do
  match env.settingsPath? with
  | none => return {}
  | some path => if ← (FileAccess.isFile path : m _) then settingsFrom path else return {}

/-- The settings of a run: those of the file that is given, or those of the user. A protocol version
that is given counts more than theirs. -/
def loadSettings (env : Environment) (path protocolVersion : Option String) :
    ExceptT Trouble m Settings := do
  let settings ← match path with
    | some path => settingsFrom path
    | none => userSettings env
  return { settings with protocolVersion := protocolVersion.getD settings.protocolVersion }

/-- The project of a server. -/
def projectOf (server : Server) (settings : Settings) : ExceptT Trouble m Project :=
  match server.generate settings with
  | .ok project => return project
  | .error failure => throw (.ofFailure failure)

end Command

end Scaffold
