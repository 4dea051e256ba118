import Scaffold.Proofs.Project.Bundle
import Scaffold.Proofs.Template.Rendering

namespace Scaffold

open Project Template

/-- The row of a parameter in the table of its tool. -/
def ParamSummary.row (p : ParamSummary) : String :=
  "| `" ++ p.name ++ "` | `" ++ p.typeName ++ "` | " ++ p.description ++ " |\n"

/-- The parameters of a tool: a table, or a sentence if there are none. -/
def ToolSummary.table (t : ToolSummary) : String :=
  if t.params.isEmpty then "This tool takes no parameters.\n"
  else "| Parameter | Type | Description |\n| --- | --- | --- |\n" ++
    String.join (t.params.map ParamSummary.row)

/-- The entry of a tool: its heading, its description and its parameters. -/
def ToolSummary.entry (t : ToolSummary) : String :=
  "### `" ++ t.name ++ "`\n\n" ++ t.description ++ "\n\n" ++ t.table ++ "\n"

/-- What is said of all handlers, behind the name of the file that they are in. -/
def handlerNote : String :=
  "` validates its inputs and then echoes them\n" ++
    "back. Replace the example implementation in each handler with real logic.\n"

namespace ProjectContext

/-- What the project is. -/
def introduction (c : ProjectContext) : String :=
  "# " ++ c.serverName ++ "\n\n" ++ c.description ++ "\n\nThis is a " ++ c.language.displayName ++
    " server skeleton for the Model Context Protocol\n(MCP), protocol version `" ++
    c.settings.protocolVersion ++ "`, built on\n`" ++ c.language.sdkPackage ++ "` " ++
    c.settings.sdkVersion c.language ++ ".\n\n## Tools\n\n"

/-- The tools of the server, or a sentence if there are none. -/
def toolList (c : ProjectContext) : String :=
  if c.tools.isEmpty then "This server does not define any tools yet.\n\n"
  else String.join (c.tools.map ToolSummary.entry)

/-- How a server of the language is started. -/
def start (c : ProjectContext) : String :=
  match c.language with
  | .python =>
    "Requires Python " ++ c.settings.pythonVersion ++ " or newer.\n\n```bash\n./install.sh\npython " ++
      c.language.sourceFile ++ "\n```\n"
  | .typeScript =>
    "Requires Node.js " ++ c.settings.nodeVersion ++
      " or newer.\n\n```bash\n./install.sh\nnpm run build\nnpm start\n```\n"

/-- How the server runs in a container, and where its handlers are. -/
def closing (c : ProjectContext) : String :=
  "\n### Docker\n\n```bash\ndocker build -t " ++ c.slug ++ " .\ndocker run --rm -i " ++ c.slug ++
    "\n```\n\n## Implementing Tools\n\nEvery handler in `" ++ c.language.sourceFile ++ handlerNote

/-- The readme of a project. -/
def readme (c : ProjectContext) : String :=
  c.introduction ++ c.toolList ++ "## Getting Started\n\n" ++ c.start ++ c.closing

end ProjectContext

namespace Project

/-- A path to a member of the current value. -/
def here (name : String) : Path := ⟨false, [name]⟩

/-- The parts of a table row. -/
def rowParts : List Part := [
  .text "| `", .value (here "name"), .text "` | `", .value (here "type"), .text "` | ",
  .value (here "description"), .text " |\n"]

/-- The parts of a table of parameters. -/
def tableParts : List Part := [
  .text "| Parameter | Type | Description |\n| --- | --- | --- |\n", .each (here "params") rowParts none]

/-- The part in place of a table without rows. -/
def noTableParts : List Part := [.text "This tool takes no parameters.\n"]

/-- The parts of the entry of a tool. -/
def entryParts : List Part := [
  .text "### `", .value (here "name"), .text "`\n\n", .value (here "description"), .text "\n\n",
  .choice (here "has_params") tableParts noTableParts, .text "\n"]

/-- The parts that say what the project is. -/
def introductionParts : List Part := [
  .text "# ", .value (here "server_name"), .text "\n\n", .value (here "description"),
  .text "\n\nThis is a ", .value (here "language_name"),
  .text " server skeleton for the Model Context Protocol\n(MCP), protocol version `",
  .value (here "protocol_version"), .text "`, built on\n`", .value (here "sdk_package"), .text "` ",
  .value (here "sdk_version"), .text ".\n\n## Tools\n\n"]

/-- The part that lists the tools. -/
def toolListParts : List Part := [.each (here "tools") entryParts none]

/-- The part in place of a list without tools. -/
def noToolsParts : List Part := [.text "This server does not define any tools yet.\n\n"]

/-- The parts that say how a Python server is started. -/
def pythonStartParts : List Part := [
  .text "Requires Python ", .value (here "python_version"),
  .text " or newer.\n\n```bash\n./install.sh\npython ", .value (here "source_file"), .text "\n```\n"]

/-- The parts that say how a TypeScript server is started. -/
def typeScriptStartParts : List Part := [
  .text "Requires Node.js ", .value (here "node_version"),
  .text " or newer.\n\n```bash\n./install.sh\nnpm run build\nnpm start\n```\n"]

/-- The parts that say how the server runs in a container, and where its handlers are. -/
def closingParts : List Part := [
  .text "\n### Docker\n\n```bash\ndocker build -t ", .value (here "slug"), .text " .\ndocker run --rm -i ",
  .value (here "slug"), .text "\n```\n\n## Implementing Tools\n\nEvery handler in `",
  .value (here "source_file"),
  .text handlerNote]

/-- The parts of the readme. -/
def readmeParts : List Part :=
  introductionParts ++ .choice (here "has_tools") toolListParts noToolsParts ::
    .text "## Getting Started\n\n" ::
    .choice (here "is_python") pythonStartParts typeScriptStartParts :: closingParts

/-- The template read into its parts: each tag of a block takes its line with it. -/
theorem parse?_readmeTemplate : parse? readmeTemplate = some readmeParts := by
  rw [readmeTemplate, linesText_eq (by repeat' constructor)]
  decide +kernel

/-! The text of each part. In a block that is repeated, a name leads to the item and not to what is around
the block. -/

theorem renders_rowParts (p : ParamSummary) (locals : List (String × Json)) :
    Renders rowParts ⟨p.toJson, locals⟩ p.row := by
  have h : Renders rowParts ⟨p.toJson, locals⟩ _ :=
    .text (.value rfl (.text (.value rfl (.text (.value rfl (.text .nil))))))
  unfold ParamSummary.row
  simpa only [String.append_assoc, String.append_empty] using h

theorem renders_tableParts (t : ToolSummary) (locals : List (String × Json)) :
    Renders (if !t.params.isEmpty then tableParts else noTableParts) ⟨t.toJson, locals⟩ t.table := by
  cases hparams : t.params.isEmpty with
  | true =>
    have h : Renders noTableParts ⟨t.toJson, locals⟩ _ := .text .nil
    simpa [ToolSummary.table, hparams] using h
  | false =>
    have h : Renders tableParts ⟨t.toJson, locals⟩ _ :=
      .text (.each rfl (fun p _ => renders_rowParts p) .nil)
    simpa [ToolSummary.table, hparams] using h

theorem renders_entryParts (t : ToolSummary) (locals : List (String × Json)) :
    Renders entryParts ⟨t.toJson, locals⟩ t.entry := by
  -- The name and the description are those of the tool here, and in the rows those of a parameter.
  have h : Renders entryParts ⟨t.toJson, locals⟩ _ :=
    .text (.value rfl (.text (.value rfl (.text (.choice rfl (renders_tableParts t locals) (.text .nil))))))
  unfold ToolSummary.entry
  simpa only [String.append_assoc, String.append_empty] using h

section Readme

variable (c : ProjectContext)

theorem renders_introductionParts : Renders introductionParts ⟨c.toJson, []⟩ c.introduction := by
  have h : Renders introductionParts ⟨c.toJson, []⟩ _ :=
    .text (.value rfl (.text (.value rfl (.text (.value rfl (.text (.value rfl (.text (.value rfl
      (.text (.value rfl (.text .nil))))))))))))
  unfold ProjectContext.introduction
  simpa only [String.append_assoc, String.append_empty] using h

theorem renders_toolListParts :
    Renders (if !c.tools.isEmpty then toolListParts else noToolsParts) ⟨c.toJson, []⟩ c.toolList := by
  cases hempty : c.tools.isEmpty with
  | true =>
    have h : Renders noToolsParts ⟨c.toJson, []⟩ _ := .text .nil
    simpa [ProjectContext.toolList, hempty] using h
  | false =>
    have h : Renders toolListParts ⟨c.toJson, []⟩ _ := .each rfl (fun t _ => renders_entryParts t) .nil
    simpa [ProjectContext.toolList, hempty] using h

theorem renders_startParts :
    Renders (if decide (c.language = .python) then pythonStartParts else typeScriptStartParts)
      ⟨c.toJson, []⟩ c.start := by
  cases hlanguage : c.language with
  | python =>
    have h : Renders pythonStartParts ⟨c.toJson, []⟩ _ :=
      .text (.value rfl (.text (.value rfl (.text .nil))))
    simpa [ProjectContext.start, hlanguage, String.append_assoc] using h
  | typeScript =>
    have h : Renders typeScriptStartParts ⟨c.toJson, []⟩ _ := .text (.value rfl (.text .nil))
    simpa [ProjectContext.start, hlanguage, String.append_assoc] using h

theorem renders_closingParts : Renders closingParts ⟨c.toJson, []⟩ c.closing := by
  have h : Renders closingParts ⟨c.toJson, []⟩ _ :=
    .text (.value rfl (.text (.value rfl (.text (.value rfl (.text .nil))))))
  unfold ProjectContext.closing
  simpa only [String.append_assoc, String.append_empty] using h

theorem renders_readmeParts : Renders readmeParts ⟨c.toJson, []⟩ c.readme := by
  have hpython : Scope.find ⟨c.toJson, []⟩ (here "is_python") =
      .found (.bool (c.language = .python)) := rfl
  have htools : Scope.find ⟨c.toJson, []⟩ (here "has_tools") = .found (.bool !c.tools.isEmpty) := rfl
  -- The parts are put in front of each other, from the last to the first.
  have hstart := Renders.choice hpython (renders_startParts c) (renders_closingParts c)
  have hheading : Renders (.text "## Getting Started\n\n" :: _) _ _ := hstart.text
  have hlist := Renders.choice htools (renders_toolListParts c) hheading
  have h := (renders_introductionParts c).append hlist
  simpa only [readmeParts, ProjectContext.readme, String.append_assoc] using h

theorem textOf?_readmeTemplate : textOf? readmeTemplate c = some c.readme := by
  rw [textOf?, parse?_readmeTemplate]
  exact renders_readmeParts c

/-- The readme that the template gives for a project is the one put together by hand: nothing of the project
is read as a tag or changed, whatever characters it has. -/
theorem exists_library_render_readme :
    ∃ library, Project.library = .ok library ∧
      ∀ c : ProjectContext, library.render "readme" c.toJson = .ok c.readme := by
  obtain ⟨library, hlibrary, hrender⟩ := exists_library
  have hmem : ("readme", readmeTemplate) ∈ templates := by simp [templates]
  exact ⟨library, hlibrary, fun c => hrender c _ hmem _ (textOf?_readmeTemplate c)⟩

end Readme

end Project

/-- The readme in the project of a server. -/
theorem Server.exists_generate_readme (s : Server) (settings : Settings) :
    ∃ project, s.generate settings = .ok project ∧
      project.find? "README.md" = some ⟨"README.md", (s.toModule.context settings).readme⟩ := by
  have htext := textOf?_readmeTemplate (s.toModule.context settings)
  obtain ⟨requirements, container, script, h⟩ := exists_generate_of_readme htext
  refine ⟨_, h, ?_⟩
  unfold bundle manifests
  cases s.language <;> rfl

end Scaffold
