import Scaffold.Json.Record
import Scaffold.Server.Description

namespace Scaffold

open Json

/-- Reads the name of a language. -/
def Language.decode : Decoder Language := aVariant fun s =>
  match Language.ofName? s with
  | some l => .ok l
  | none => .error (.unknownVariant s ["python", "typescript"])

/-- Reads the name of a parameter type; any name is one. -/
def ParamType.decode : Decoder ParamType := aVariant fun s => .ok (ParamType.ofName s)

/-- Reads a default value: a truth value, a number or a string. -/
def DefaultValue.decode : Decoder DefaultValue := fun fuel depth cs => do
  match ← readValue fuel depth cs with
  | (.bool b, rest) => return (.bool b, rest)
  | (.number n, rest) => return (.number n, rest)
  | (.string s, rest) => return (.string s, rest)
  | _ => throw (.noVariant "DefaultValue")

/-- Constraints as they are read. -/
def Constraints.shape : Shape Constraints where
  name := "Constraints"
  fields := [
    field "minLength" false (optional (aNatural "u64")) fun v c => { c with minLength := v },
    field "maxLength" false (optional (aNatural "u64")) fun v c => { c with maxLength := v },
    field "pattern" false (optional aString) fun v c => { c with pattern := v },
    field "minimum" false (optional aBinary64) fun v c => { c with minimum := v },
    field "maximum" false (optional aBinary64) fun v c => { c with maximum := v },
    field "enum" false (optional (aList aString)) fun v c => { c with allowed := v },
    field "default" false (optional DefaultValue.decode) fun v c => { c with default := v },
    field "required" false (optional aBool) fun v c => { c with required := v }]
  blank := {}

/-- Reads constraints. -/
def Constraints.decode : Decoder Constraints := aRecord Constraints.shape

/-- Parameters as they are read. -/
def Parameter.shape : Shape Parameter where
  name := "Parameter"
  fields := [
    field "id" false aString fun v p => { p with id := v },
    field "name" true aString fun v p => { p with name := v },
    field "type" true ParamType.decode fun v p => { p with type := v },
    field "description" false aString fun v p => { p with description := v },
    field "constraints" false (optional Constraints.decode) fun v p => { p with constraints := v }]
  blank := { name := "", type := .unknown }

/-- Reads a parameter. -/
def Parameter.decode : Decoder Parameter := aRecord Parameter.shape

/-- Tools as they are read. -/
def Tool.shape : Shape Tool where
  name := "Tool"
  fields := [
    field "id" false aString fun v t => { t with id := v },
    field "name" true aString fun v t => { t with name := v },
    field "description" false aString fun v t => { t with description := v },
    field "parameters" false (aList Parameter.decode) fun v t => { t with parameters := v }]
  blank := { name := "" }

/-- Reads a tool. -/
def Tool.decode : Decoder Tool := aRecord Tool.shape

/-- Server descriptions as they are read. -/
def Server.shape : Shape Server where
  name := "ServerConfig"
  fields := [
    field "serverName" true aString fun v s => { s with name := v },
    field "description" false aString fun v s => { s with description := v },
    field "serverType" true Language.decode fun v s => { s with language := v },
    field "tools" false (aList Tool.decode) fun v s => { s with tools := v }]
  blank := { name := "", language := .python }

/-- Reads a server description. -/
def Server.decode : Decoder Server := aRecord Server.shape

/-- The server description of a JSON text. -/
def Server.ofText (text : String) : Except Failure Server :=
  match readText Server.decode text with
  | .ok s => .ok s
  | .error p => .error (.serialization ("Failed to parse server configuration: " ++ p.message))

end Scaffold
