import Scaffold.Source.Emit

/-!
What the templates of a project can show. Free text comes in on one line, so no text of a server can
start a line of its own in a generated file.
-/

namespace Scaffold

/-- A parameter as the description of a project lists it. -/
structure ParamSummary where
  name : String
  typeName : String
  description : String
deriving DecidableEq, Repr

/-- A tool as the description of a project lists it. -/
structure ToolSummary where
  name : String
  description : String
  params : List ParamSummary
deriving DecidableEq, Repr

/-- What the templates of a project can show. -/
structure ProjectContext where
  serverName : String
  slug : String
  description : String
  language : Language
  settings : Settings
  tools : List ToolSummary
deriving DecidableEq

/-- The characters with a backslash before every vertical bar. -/
def escapeBars : List Char → List Char
  | [] => []
  | c :: rest => if c = '|' then '\\' :: '|' :: escapeBars rest else c :: escapeBars rest

/-- The text on one line, safe in a cell of a table. -/
def tableCell (s : String) : String := String.ofList (escapeBars (Text.flatten s).toList)

/-- The row of a parameter. -/
def ParamDecl.summary (p : ParamDecl) : ParamSummary :=
  ⟨p.name, tableCell p.typeToken, tableCell p.description⟩

/-- The entry of a tool. -/
def ToolDecl.summary (t : ToolDecl) : ToolSummary :=
  ⟨t.name, Text.flatten t.description, t.params.map ParamDecl.summary⟩

/-- The package that connects servers of a language. -/
def Language.sdkPackage : Language → String
  | python => "mcp"
  | typeScript => "@modelcontextprotocol/sdk"

/-- The version of the package that connects servers of a language. -/
def Settings.sdkVersion (s : Settings) : Language → String
  | .python => s.pythonSdkVersion
  | .typeScript => s.typeScriptSdkVersion

/-- What the templates can show of a server. -/
def Module.context (m : Module) (settings : Settings) : ProjectContext where
  serverName := Text.flatten m.serverName
  slug := Text.slugOf m.serverName
  description := Text.flatten m.description
  language := m.language
  settings := settings
  tools := m.tools.map ToolDecl.summary

/-- A row as JSON. -/
def ParamSummary.toJson (p : ParamSummary) : Json := .object [
  ("name", .string p.name),
  ("type", .string p.typeName),
  ("description", .string p.description)]

/-- An entry as JSON. -/
def ToolSummary.toJson (t : ToolSummary) : Json := .object [
  ("name", .string t.name),
  ("description", .string t.description),
  ("has_params", .bool !t.params.isEmpty),
  ("params", .array (t.params.map ParamSummary.toJson))]

/-- The context as JSON, under the names that the templates use. -/
def ProjectContext.toJson (c : ProjectContext) : Json := .object [
  ("server_name", .string c.serverName),
  ("slug", .string c.slug),
  ("description", .string c.description),
  ("language_name", .string c.language.displayName),
  ("is_python", .bool (c.language = .python)),
  ("source_file", .string c.language.sourceFile),
  ("protocol_version", .string c.settings.protocolVersion),
  ("sdk_package", .string c.language.sdkPackage),
  ("sdk_version", .string (c.settings.sdkVersion c.language)),
  ("python_sdk_version", .string c.settings.pythonSdkVersion),
  ("pydantic_version_spec", .string c.settings.pydanticRequirement),
  ("python_version", .string c.settings.pythonVersion),
  ("node_version", .string c.settings.nodeVersion),
  ("has_tools", .bool !c.tools.isEmpty),
  ("tools", .array (c.tools.map ToolSummary.toJson))]

end Scaffold
