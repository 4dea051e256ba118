import Scaffold.Server.Encode
import Scaffold.Validation.Check

namespace Scaffold

/-- The outcome of checking a server description. -/
structure ValidationReport where
  serverName : String
  language : Language
  toolCount : Nat
  parameterCount : Nat
  errors : List FieldError
deriving DecidableEq

namespace ValidationReport

/-- Checks a server description. -/
def check [Pattern.SizeLimit] (limits : Limits) (s : Server) : ValidationReport where
  serverName := s.name
  language := s.language
  toolCount := s.tools.length
  parameterCount := s.parameterCount
  errors := s.problems limits

/-- Whether the description keeps all rules. -/
def valid (r : ValidationReport) : Bool := r.errors.isEmpty

/-- A problem of a field as JSON. -/
def errorJson (e : FieldError) : Json :=
  .object [("field", .string e.field), ("message", .string e.message)]

/-- The report as JSON. -/
def toJson (r : ValidationReport) : Json := .object [
  ("valid", .bool r.valid),
  ("server_name", .string r.serverName),
  ("language", .string r.language.name),
  ("tool_count", .ofNat r.toolCount),
  ("parameter_count", .ofNat r.parameterCount),
  ("errors", .array (r.errors.map errorJson))]

end ValidationReport

end Scaffold
