import Scaffold.Json.Record
import Scaffold.Json.Printer

namespace Scaffold

/-- The settings of a generator run. -/
structure Settings where
  /-- The protocol version that a generated server announces. -/
  protocolVersion : String := "2024-11-05"
  pythonSdkVersion : String := "1.2.0"
  typeScriptSdkVersion : String := "1.0.4"
  zodVersion : String := "3.23.8"
  /-- The requirement on pydantic, with its operators. -/
  pydanticRequirement : String := ">=1.10,<2"
  pythonVersion : String := "3.11"
  nodeVersion : String := "20"
  /-- The version of the generated server itself. -/
  serverVersion : String := "1.0.0"
deriving DecidableEq, Repr

namespace Settings

/-- The settings with one of them replaced: the one with this key, if there is one. -/
def set? (key value : String) (s : Settings) : Option Settings :=
  match key with
  | "protocol_version" => some { s with protocolVersion := value }
  | "python_sdk_version" => some { s with pythonSdkVersion := value }
  | "typescript_sdk_version" => some { s with typeScriptSdkVersion := value }
  | "zod_version" => some { s with zodVersion := value }
  | "pydantic_version_spec" => some { s with pydanticRequirement := value }
  | "python_version" => some { s with pythonVersion := value }
  | "node_version" => some { s with nodeVersion := value }
  | "server_version" => some { s with serverVersion := value }
  | _ => none

/-- The keys of the settings with their values, in order. -/
def entries (s : Settings) : List (String × String) := [
  ("protocol_version", s.protocolVersion),
  ("python_sdk_version", s.pythonSdkVersion),
  ("typescript_sdk_version", s.typeScriptSdkVersion),
  ("zod_version", s.zodVersion),
  ("pydantic_version_spec", s.pydanticRequirement),
  ("python_version", s.pythonVersion),
  ("node_version", s.nodeVersion),
  ("server_version", s.serverVersion)]

/-- The keys of the settings, in order. -/
def keys : List String := (entries {}).map Prod.fst

/-- Settings as they are read from JSON. -/
def shape : Json.Shape Settings where
  name := "GeneratorConfig"
  fields := keys.map fun key =>
    Json.field key false Json.aString fun v s => (s.set? key v).getD s
  blank := {}

/-- Reads settings. -/
def decode : Json.Decoder Settings := Json.aRecord shape

/-- Settings as JSON. -/
def toJson (s : Settings) : Json := .object (s.entries.map fun (k, v) => (k, .string v))

end Settings

end Scaffold
