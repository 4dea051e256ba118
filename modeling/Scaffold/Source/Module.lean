import Scaffold.Server.Encode

/-!
A server ready to be printed in one language. Every tool has one list of parameters, from which its
signature, its registration and its validation are all printed.
-/

namespace Scaffold

/-- A parameter resolved for one language. -/
structure ParamDecl where
  /-- The identifier of the parameter. -/
  name : String
  type : ParamType
  description : String
  /-- The type as the language writes it. -/
  typeToken : String
  /-- The expression that validates the parameter. -/
  validator : String
  constraints : Constraints
deriving DecidableEq

/-- A tool resolved for one language. -/
structure ToolDecl where
  /-- The identifier of the tool. -/
  name : String
  description : String
  params : List ParamDecl
deriving DecidableEq

/-- A server resolved for one language. -/
structure Module where
  serverName : String
  description : String
  language : Language
  tools : List ToolDecl
deriving DecidableEq

/-- The identifiers of the parameters, in order. -/
def ToolDecl.paramNames (t : ToolDecl) : List String := t.params.map (·.name)

/-- Whether the tool takes parameters; one that takes none has no validation. -/
def ToolDecl.hasParams (t : ToolDecl) : Bool := !t.params.isEmpty

/-- A parameter as JSON. -/
def ParamDecl.toJson (p : ParamDecl) : Json := .object [
  ("name", .string p.name),
  ("param_type", .string p.type.name),
  ("description", .string p.description),
  ("type_token", .string p.typeToken),
  ("validator", .string p.validator),
  ("constraints", p.constraints.toJson)]

/-- A tool as JSON. -/
def ToolDecl.toJson (t : ToolDecl) : Json := .object [
  ("name", .string t.name),
  ("description", .string t.description),
  ("params", .array (t.params.map ParamDecl.toJson))]

/-- A module as JSON. -/
def Module.toJson (m : Module) : Json := .object [
  ("server_name", .string m.serverName),
  ("description", .string m.description),
  ("language", .string m.language.name),
  ("tools", .array (m.tools.map ToolDecl.toJson))]

end Scaffold
