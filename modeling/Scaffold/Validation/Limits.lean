import Scaffold.Json.Record
import Scaffold.Json.Printer

namespace Scaffold

/-- The greatest sizes that validation lets pass; lengths are counted in characters. -/
structure Limits where
  tools : Nat := 100
  parametersPerTool : Nat := 50
  nameLength : Nat := 128
  descriptionLength : Nat := 2000
deriving DecidableEq, Repr

namespace Limits

/-- Reads a size. -/
def aSize : Json.Decoder Nat := fun fuel depth cs => do
  let (n, rest) ← Json.aNatural "usize" fuel depth cs
  return (n.toNat, rest)

/-- Limits as they are read from JSON. -/
def shape : Json.Shape Limits where
  name := "ValidationLimits"
  fields := [
    Json.field "max_tools" false aSize fun v l => { l with tools := v },
    Json.field "max_parameters_per_tool" false aSize fun v l => { l with parametersPerTool := v },
    Json.field "max_name_length" false aSize fun v l => { l with nameLength := v },
    Json.field "max_description_length" false aSize fun v l => { l with descriptionLength := v }]
  blank := {}

/-- Reads limits. -/
def decode : Json.Decoder Limits := Json.aRecord shape

/-- Limits as JSON. -/
def toJson (l : Limits) : Json := .object [
  ("max_tools", .ofNat l.tools),
  ("max_parameters_per_tool", .ofNat l.parametersPerTool),
  ("max_name_length", .ofNat l.nameLength),
  ("max_description_length", .ofNat l.descriptionLength)]

end Limits

end Scaffold
