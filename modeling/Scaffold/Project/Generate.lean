import Scaffold.Project.Basic
import Scaffold.Project.Context
import Scaffold.Project.Manifest
import Scaffold.Project.Templates

namespace Scaffold

namespace Project

/-- The file that a template renders. -/
def rendered (library : Template.Library) (context : ProjectContext) (path template : String) :
    Except Failure ProjectFile :=
  match library.render template context.toJson with
  | .ok content => .ok ⟨path, content⟩
  | .error e => .error e

/-- The files by which the package manager of a language knows what a server needs. -/
def requirementFiles (library : Template.Library) (s : Server) (settings : Settings)
    (context : ProjectContext) : Except Failure (List ProjectFile) :=
  match s.language with
  | .python => do return [← rendered library context "requirements.txt" "requirements"]
  | .typeScript => .ok [
      ⟨"package.json", packageManifest s.name s.description settings⟩,
      ⟨"tsconfig.json", compilerManifest s.language.sourceFile⟩]

/-- The project of a server, its text files rendered from a library of templates. -/
def ofServer (library : Template.Library) (s : Server) (settings : Settings) :
    Except Failure Project := do
  let resolved := s.toModule
  let context := resolved.context settings
  let source : ProjectFile := ⟨s.language.sourceFile, s.language.print resolved settings⟩
  let requirements ← requirementFiles library s settings context
  let readme ← rendered library context "README.md" "readme"
  let container ← rendered library context "Dockerfile" ("dockerfile/" ++ s.language.name)
  let install ← rendered library context "install.sh" ("install/" ++ s.language.name)
  return ⟨source :: requirements ++ [readme, container, install]⟩

end Project

/-- The project of a server. -/
def Server.generate (s : Server) (settings : Settings) : Except Failure Project := do
  Project.ofServer (← Project.library) s settings

end Scaffold
