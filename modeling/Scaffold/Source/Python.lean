import Scaffold.Settings.Basic
import Scaffold.Source.Fragment
import Scaffold.Source.Line
import Scaffold.Source.Literal
import Scaffold.Source.Module
import Scaffold.Text.Embedded
import Scaffold.Text.Identifier

namespace Scaffold.Python

/-- The name of the source file. -/
def sourceFile : String := "server.py"

/-- One level of indentation. -/
def indentUnit : String := "    "

/-- The type of a parameter before enums are written out. -/
def baseType : ParamType → String
  | .number => "float"
  | .integer => "int"
  | .boolean => "bool"
  | .array => "List[Any]"
  | .object => "Dict[str, Any]"
  | .date => "datetime.date"
  | .string | .email | .url | .enum | .unknown => "str"

/-- The spelling of a truth value. -/
def boolLiteral (b : Bool) : String := if b then "True" else "False"

/-- The field arguments for the lengths and the pattern of a text. -/
def textArguments (c : Constraints) : List String :=
  (c.minLength.map fun n => "min_length=" ++ toString n.toNat).toList ++
    (c.maxLength.map fun n => "max_length=" ++ toString n.toNat).toList ++
    (c.pattern.map fun x => "regex=" ++ Text.quote x).toList

/-- The field arguments for the bounds of a number. -/
def boundArguments (c : Constraints) : List String :=
  (c.minimum.map fun x => "ge=" ++ x.text).toList ++ (c.maximum.map fun x => "le=" ++ x.text).toList

/-- The field argument for the default. -/
def defaultArguments (type : ParamType) (c : Constraints) : List String :=
  (c.default.map fun v => "default=" ++ v.literal type boolLiteral).toList

/-- The field arguments that constraints come to. The formats of types have none, and neither has
the leave to omit the value. -/
def arguments (type : ParamType) (c : Constraints) : List String :=
  (if type.isStringLike then textArguments c else []) ++
    (if type.isNumeric then boundArguments c else []) ++ defaultArguments type c

/-- The type that lists the values of an enum. -/
def literalType (values : List String) : String :=
  "Literal[" ++ ", ".intercalate (quoteAll values) ++ "]"

/-- The constraints of a parameter as field arguments. -/
def fragment (p : Parameter) : Fragment where
  typeOverride := p.alternatives.map literalType
  parts :=
    match p.constraints with
    | some c => arguments p.type c
    | none => []
  style := .keywordArguments

/-- The declaration of a parameter. -/
def declare (p : Parameter) : ParamDecl where
  name := Text.identifierOf p.name
  type := p.type
  description := p.description
  typeToken := (fragment p).resolve (baseType p.type)
  validator := "Field(description=" ++ Text.quote p.description ++ (fragment p).splice ++ ")"
  constraints := p.constraints.getD {}

/-- The parameter list of a handler. -/
def signature (t : ToolDecl) : String :=
  ", ".intercalate (t.params.map fun p => p.name ++ ": " ++ p.typeToken)

/-- The name of the model that validates the input of a tool. -/
def modelName (t : ToolDecl) : String := t.name ++ "_params"

/-- The lines before the tools. -/
def preamble (m : Module) (s : Settings) : List Line :=
  Line.comment 0 "#" m.serverName ++ [⟨0, "#"⟩] ++
  (if m.description.isEmpty then [] else Line.comment 0 "#" m.description ++ [⟨0, "#"⟩]) ++
  Line.block 0 [
    "# MCP protocol version " ++ s.protocolVersion ++ ", Python SDK mcp==" ++ s.pythonSdkVersion,
    "",
    "from typing import Dict, List, Union, Optional, Any, Literal",
    "from mcp.server import MCPServer, Tool, Resources",
    "from pydantic import BaseModel, Field, validator  # pip install \"pydantic" ++
      s.pydanticRequirement ++ "\"",
    "import os",
    "import json",
    "import asyncio",
    "import datetime",
    "import requests  # You may need to install this: pip install requests",
    "",
    "# Initialize the MCP server with security options",
    "server = MCPServer("] ++
  Line.block 1 [
    "name=" ++ Text.quote m.serverName ++ ",",
    "description=" ++ Text.quote m.description ++ ",",
    "# Uncomment to enable authentication",
    "# auth_config=\x7b",
    "#     \"api_keys\": [\"your-secret-key\"],  # Replace with actual API keys or use environment variables",
    "# \x7d"] ++
  [⟨0, ")"⟩, .blank]

/-- The line that declares a parameter in its model. -/
def fieldLine (p : ParamDecl) : Line := ⟨1, p.name ++ ": " ++ p.typeToken ++ " = " ++ p.validator⟩

/-- The model that validates the input of a tool. -/
def modelLines (t : ToolDecl) : List Line :=
  Line.block 0 [
    "# Parameter validation model for " ++ t.name,
    "class " ++ modelName t ++ "(BaseModel):"] ++
  t.params.map fieldLine ++ [.blank] ++
  Line.block 1 [
    "# Add custom validation if needed",
    "# @validator(\"field_name\")",
    "# def validate_field(cls, v):",
    "#     if not valid_condition:",
    "#         raise ValueError(\"Validation error message\")",
    "#     return v"] ++
  [.blank]

/-- The keyword arguments of the model call, one to a line. -/
def argumentLines : List String → List Line
  | [] => []
  | [name] => [⟨2, name ++ "=" ++ name⟩]
  | name :: rest => ⟨2, name ++ "=" ++ name ++ ","⟩ :: argumentLines rest

/-- The call that validates the input of a tool. -/
def validationLines (t : ToolDecl) : List Line :=
  Line.block 1 ["# Validate parameters", "params = " ++ modelName t ++ "("] ++
  argumentLines t.paramNames ++ [⟨1, ")"⟩, .blank]

/-- Advice on how to fill in a handler. -/
def hintLines : List Line := Line.block 1 [
  "# TODO: Implement tool functionality",
  "",
  "# IMPLEMENTATION HINTS:",
  "# 1. For API calls:",
  "# async with aiohttp.ClientSession() as session:",
  "#     async with session.get(f\"https://api.example.com/data?param=\x7bparam_name\x7d\") as response:",
  "#         data = await response.json()",
  "#         return \x7b\"result\": data\x7d",
  "",
  "# 2. For file operations:",
  "# with open(\"data.json\", \"r\") as f:",
  "#     data = json.load(f)",
  "# return \x7b\"result\": data\x7d",
  "",
  "# 3. For database queries (using SQLite as example):",
  "# import aiosqlite",
  "# async with aiosqlite.connect(\"database.db\") as db:",
  "#     cursor = await db.execute(\"SELECT * FROM table WHERE column = ?\", (param_value,))",
  "#     results = await cursor.fetchall()",
  "#     return \x7b\"result\": results\x7d",
  "",
  "# Example implementation (replace with your actual logic):"]

/-- The f-string that a new handler answers with. -/
def echo (t : ToolDecl) : String :=
  "f\"" ++ Text.formatStringText t.name ++
    (if t.hasParams then
      " executed with parameters: " ++
        ", ".intercalate (t.paramNames.map fun n => "\x7b" ++ n ++ "\x7d")
    else " executed with no parameters") ++ "\""

/-- The lines of a tool. -/
def toolLines (t : ToolDecl) : List Line :=
  [.blank] ++ (if t.hasParams then modelLines t else []) ++
  [⟨0, "@server.tool()"⟩,
    ⟨0, "async def " ++ t.name ++ "(" ++ signature t ++ ") -> Dict[str, Any]:"⟩,
    ⟨1, "\"\"\"" ++ Text.docstringBody t.description ++ "\"\"\""⟩] ++
  (if t.hasParams then validationLines t else []) ++ hintLines ++
  [⟨1, "return \x7b\"result\": " ++ echo t ++ "\x7d"⟩]

/-- The lines after the tools. -/
def epilogue : List Line :=
  [.blank] ++ Line.block 0 [
    "# Add middleware if needed (e.g., for logging, auth, etc.)",
    "# @server.middleware",
    "# async def log_request(context, next):",
    "#     print(f\"Request: \x7bcontext.request\x7d\")",
    "#     result = await next()",
    "#     print(f\"Response: \x7bresult\x7d\")",
    "#     return result",
    "",
    "# Start the server",
    "if __name__ == \"__main__\":"] ++
  [⟨1, "server.start()"⟩]

/-- The lines of a server. -/
def lines (m : Module) (s : Settings) : List Line :=
  preamble m s ++ m.tools.flatMap toolLines ++ epilogue

/-- The source of a server. -/
def print (m : Module) (s : Settings) : String := Line.renderAll indentUnit (lines m s)

end Scaffold.Python
