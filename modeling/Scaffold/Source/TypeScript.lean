import Scaffold.Settings.Basic
import Scaffold.Source.Fragment
import Scaffold.Source.Line
import Scaffold.Source.Literal
import Scaffold.Source.Module
import Scaffold.Text.Embedded
import Scaffold.Text.Identifier

namespace Scaffold.TypeScript

/-- The name of the source file. -/
def sourceFile : String := "server.ts"

/-- One level of indentation. -/
def indentUnit : String := "  "

/-- The type of a parameter before enums are written out. -/
def baseType : ParamType → String
  | .number | .integer => "number"
  | .boolean => "boolean"
  | .array => "any[]"
  | .object => "Record<string, any>"
  | .date => "Date"
  | .string | .email | .url | .enum | .unknown => "string"

/-- The schema of a type before enums are written out. -/
def baseSchema : ParamType → String
  | .number | .integer => "z.number()"
  | .boolean => "z.boolean()"
  | .array => "z.array(z.any())"
  | .object => "z.record(z.any())"
  | .date => "z.coerce.date()"
  | .string | .email | .url | .enum | .unknown => "z.string()"

/-- The calls that check the lengths and the pattern of a text. -/
def textCalls (c : Constraints) : List String :=
  (c.minLength.map fun n => ".min(" ++ toString n.toNat ++ ")").toList ++
    (c.maxLength.map fun n => ".max(" ++ toString n.toNat ++ ")").toList ++
    (c.pattern.map fun x => ".regex(/" ++ Text.regexBody x ++ "/)").toList

/-- The call that checks the format of a type. -/
def formatCall? : ParamType → Option String
  | .email => some ".email()"
  | .url => some ".url()"
  | .integer => some ".int()"
  | _ => none

/-- The calls that check the bounds of a number. -/
def boundCalls (c : Constraints) : List String :=
  (c.minimum.map fun x => ".gte(" ++ x.text ++ ")").toList ++
    (c.maximum.map fun x => ".lte(" ++ x.text ++ ")").toList

/-- The call for a default. A date is made of its text. -/
def defaultCall (type : ParamType) (v : DefaultValue) : String :=
  let literal := v.literal type boolText
  if type = .date then ".default(new Date(" ++ literal ++ "))" else ".default(" ++ literal ++ ")"

/-- The call for the default, or else for the leave to omit the value. -/
def omissionCall? (type : ParamType) (c : Constraints) : Option String :=
  match c.default with
  | some v => some (defaultCall type v)
  | none => if c.required = some false then some ".optional()" else none

/-- The calls that constraints come to, with the format of the type between them. -/
def calls (type : ParamType) (c : Constraints) : List String :=
  (if type.isStringLike then textCalls c else []) ++ (formatCall? type).toList ++
    (if type.isNumeric then boundCalls c else []) ++ (omissionCall? type c).toList

/-- The schema that lists the values of an enum. -/
def enumSchema (values : List String) : String :=
  "z.enum([" ++ ", ".intercalate (quoteAll values) ++ "])"

/-- The constraints of a parameter as calls on a schema. The format of a type is checked without any
constraints too. -/
def fragment (p : Parameter) : Fragment where
  typeOverride := p.alternatives.map enumSchema
  parts :=
    match p.constraints with
    | some c => calls p.type c
    | none => (formatCall? p.type).toList
  style := .chainedCalls

/-- The declaration of a parameter. -/
def declare (p : Parameter) : ParamDecl where
  name := Text.identifierOf p.name
  type := p.type
  description := p.description
  typeToken := match p.alternatives with
    | some values => " | ".intercalate (quoteAll values)
    | none => baseType p.type
  validator := (fragment p).resolve (baseSchema p.type) ++ (fragment p).splice
  constraints := p.constraints.getD {}

/-- The names that a handler takes out of its input. -/
def signature (t : ToolDecl) : String := ", ".intercalate t.paramNames

/-- The name of the schema that validates the input of a tool. -/
def schemaName (t : ToolDecl) : String := t.name ++ "_schema"

/-- A default value as the metadata show it. -/
def echoDefault : DefaultValue → String
  | .bool b => boolText b
  | .number n => n.text
  | .string s => Text.quote s

/-- The constraints as the metadata show them: each present one under its name. -/
def constraintEchoes (c : Constraints) : List (String × String) :=
  (c.minLength.map fun n => ("minLength", toString n.toNat)).toList ++
  (c.maxLength.map fun n => ("maxLength", toString n.toNat)).toList ++
  (c.pattern.map fun p => ("pattern", Text.quote p)).toList ++
  (c.minimum.map fun x => ("minimum", x.text)).toList ++
  (c.maximum.map fun x => ("maximum", x.text)).toList ++
  (c.alternatives.map fun vs => ("enum", "[" ++ ", ".intercalate (quoteAll vs) ++ "]")).toList ++
  (c.default.map fun v => ("default", echoDefault v)).toList ++
  (c.required.map fun b => ("required", boolText b)).toList

/-- The metadata of a parameter. -/
def metadataEntry (p : ParamDecl) : String :=
  let entries := ("type", Text.quote p.type.name) :: ("description", Text.quote p.description) ::
    constraintEchoes p.constraints
  "\x7b " ++ ", ".intercalate (entries.map fun (k, v) => k ++ ": " ++ v) ++ " \x7d"

/-- The lines before the tools. -/
def preamble (m : Module) (s : Settings) : List Line :=
  Line.comment 0 "//" m.serverName ++ [⟨0, "//"⟩] ++
  (if m.description.isEmpty then [] else Line.comment 0 "//" m.description ++ [⟨0, "//"⟩]) ++
  Line.block 0 [
    "// MCP protocol version " ++ s.protocolVersion ++
      ", TypeScript SDK @modelcontextprotocol/sdk@" ++ s.typeScriptSdkVersion ++ ", zod@" ++
      s.zodVersion,
    "",
    "import \x7b MCPServer \x7d from \"@modelcontextprotocol/sdk\";",
    "import \x7b z \x7d from \"zod\";",
    "",
    "// Initialize the MCP server with security options",
    "const server = new MCPServer(\x7b"] ++
  Line.block 1 [
    "name: " ++ Text.quote m.serverName ++ ",",
    "description: " ++ Text.quote m.description ++ ",",
    "// Uncomment to enable authentication",
    "// auth: \x7b",
    "//   apiKeys: [\"your-secret-key\"], // Replace with actual API keys or use environment variables",
    "// \x7d,"] ++
  [⟨0, "\x7d);"⟩, .blank]

/-- The schema that validates the input of a tool. -/
def schemaLines (t : ToolDecl) : List Line :=
  Line.block 0 [
    "// Parameter validation schema for " ++ t.name,
    "const " ++ schemaName t ++ " = z.object(\x7b"] ++
  t.params.map (fun p => ⟨1, p.name ++ ": " ++ p.validator ++ ","⟩) ++
  [⟨0, "\x7d);"⟩, .blank]

/-- The line of a parameter in the documentation of its tool. -/
def paramTag (p : ParamDecl) : String :=
  let tag := " * @param \x7b" ++ Text.docCommentText p.typeToken ++ "\x7d " ++ p.name
  let description := Text.docCommentText (Text.flatten p.description)
  if description.isEmpty then tag else tag ++ " - " ++ description

/-- The documentation of a tool. -/
def docLines (t : ToolDecl) : List Line :=
  [⟨0, "/**"⟩, ⟨0, " * " ++ Text.docCommentText (Text.flatten t.description)⟩] ++
  t.params.map (fun p => ⟨0, paramTag p⟩) ++ [⟨0, " */"⟩]

/-- Advice on how to fill in a handler. -/
def hintLines : List Line := Line.block 2 [
  "// TODO: Implement tool functionality",
  "",
  "// IMPLEMENTATION HINTS:",
  "// 1. For API calls:",
  "// const response = await fetch(`https://api.example.com/data?param=$\x7bencodeURIComponent(paramName)\x7d`);",
  "// const data = await response.json();",
  "// return \x7b result: data \x7d;",
  "",
  "// 2. For file operations:",
  "// import \x7b readFile \x7d from \"fs/promises\";",
  "// const data = JSON.parse(await readFile(\"data.json\", \"utf-8\"));",
  "// return \x7b result: data \x7d;",
  "",
  "// 3. For database queries (using SQLite as example):",
  "// import Database from \"better-sqlite3\";",
  "// const db = new Database(\"database.db\");",
  "// const rows = db.prepare(\"SELECT * FROM table WHERE column = ?\").all(paramValue);",
  "// return \x7b result: rows \x7d;",
  "",
  "// Example implementation (replace with your actual logic):"]

/-- The template literal that a new handler answers with. -/
def echo (t : ToolDecl) : String :=
  "`" ++ Text.templateText t.name ++
    (if t.hasParams then
      " executed with parameters: " ++
        ", ".intercalate (t.paramNames.map fun n => "$\x7b" ++ n ++ "\x7d")
    else " executed with no parameters") ++ "`"

/-- The registered metadata and the head of the handler, down to the validated input. -/
def handlerHead (t : ToolDecl) : List Line :=
  if t.hasParams then
    [⟨1, "parameters: \x7b"⟩] ++
    t.params.map (fun p => ⟨2, p.name ++ ": " ++ metadataEntry p ++ ","⟩) ++
    [⟨1, "\x7d,"⟩,
      ⟨1, "handler: async (\x7b " ++ signature t ++ " \x7d) => \x7b"⟩,
      ⟨2, "// Validate parameters"⟩,
      ⟨2, "const params = " ++ schemaName t ++ ".parse(\x7b " ++ signature t ++ " \x7d);"⟩,
      .blank]
  else [⟨1, "parameters: \x7b\x7d,"⟩, ⟨1, "handler: async () => \x7b"⟩]

/-- The lines of a tool. -/
def toolLines (t : ToolDecl) : List Line :=
  [.blank] ++ (if t.hasParams then schemaLines t else []) ++ docLines t ++
  [⟨0, "server.tool(\x7b"⟩,
    ⟨1, "name: " ++ Text.quote t.name ++ ","⟩,
    ⟨1, "description: " ++ Text.quote t.description ++ ","⟩] ++
  handlerHead t ++ hintLines ++
  [⟨2, "return \x7b result: " ++ echo t ++ " \x7d;"⟩, ⟨1, "\x7d,"⟩, ⟨0, "\x7d);"⟩]

/-- The lines after the tools. -/
def epilogue : List Line :=
  [.blank] ++
  Line.block 0 ["// Start the server", "server.start().catch((error) => \x7b"] ++
  Line.block 1 ["console.error(\"Failed to start server:\", error);", "process.exit(1);"] ++
  Line.block 0 [
    "\x7d);",
    "",
    "// Graceful shutdown",
    "process.on(\"SIGINT\", async () => \x7b"] ++
  Line.block 1 [
    "console.log(\"Shutting down server...\");",
    "await server.stop();",
    "process.exit(0);"] ++
  [⟨0, "\x7d);"⟩]

/-- The lines of a server. -/
def lines (m : Module) (s : Settings) : List Line :=
  preamble m s ++ m.tools.flatMap toolLines ++ epilogue

/-- The source of a server. -/
def print (m : Module) (s : Settings) : String := Line.renderAll indentUnit (lines m s)

end Scaffold.TypeScript
