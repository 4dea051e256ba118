import Scaffold.Json.Printer
import Scaffold.Server.Description

namespace Scaffold

/-- A member of an object that is there only if its value is. -/
def Json.member? {α : Type} (key : String) (encode : α → Json) : Option α → List (String × Json)
  | some v => [(key, encode v)]
  | none => []

/-- A floating point number as JSON, which has no infinities and no NaN. -/
def Binary64.toJson : Binary64 → Json
  | .finite negative m => .number (.fraction negative m)
  | _ => .null

namespace DefaultValue

/-- A default value as JSON. -/
def toJson : DefaultValue → Json
  | bool b => .bool b
  | number n => .number n
  | string s => .string s

end DefaultValue

/-- Constraints as JSON. -/
def Constraints.toJson (c : Constraints) : Json := .object (
  Json.member? "minLength" (fun n : UInt64 => .number (.natural n)) c.minLength ++
  Json.member? "maxLength" (fun n : UInt64 => .number (.natural n)) c.maxLength ++
  Json.member? "pattern" .string c.pattern ++
  Json.member? "minimum" Binary64.toJson c.minimum ++
  Json.member? "maximum" Binary64.toJson c.maximum ++
  Json.member? "enum" (fun vs : List String => .array (vs.map .string)) c.allowed ++
  Json.member? "default" DefaultValue.toJson c.default ++
  Json.member? "required" .bool c.required)

/-- A parameter as JSON. -/
def Parameter.toJson (p : Parameter) : Json := .object ([
  ("id", .string p.id),
  ("name", .string p.name),
  ("type", .string p.type.name),
  ("description", .string p.description)] ++
  Json.member? "constraints" Constraints.toJson p.constraints)

/-- A tool as JSON. -/
def Tool.toJson (t : Tool) : Json := .object [
  ("id", .string t.id),
  ("name", .string t.name),
  ("description", .string t.description),
  ("parameters", .array (t.parameters.map Parameter.toJson))]

/-- A server description as JSON. -/
def Server.toJson (s : Server) : Json := .object [
  ("serverName", .string s.name),
  ("description", .string s.description),
  ("serverType", .string s.language.name),
  ("tools", .array (s.tools.map Tool.toJson))]

end Scaffold
