import Scaffold.Number.Reading
import Scaffold.Server.Description
import Scaffold.Text.Blank
import Scaffold.Text.Inspect
import Scaffold.Text.Table.DecimalDigit

namespace Scaffold

/-- Why a default does not go with a type. -/
inductive DefaultFault where
  | notNumber (text : String)
  | notInteger (text : String)
  | numberWanted
  | boolWanted
  | notDate (text : String)
  | dateWanted
  | unsupported
  | notAllowed (text : String)
deriving DecidableEq, Repr

/-- The words for a fault of a default. -/
def DefaultFault.message : DefaultFault → String
  | notNumber s => "Default " ++ s ++ " is not a number"
  | notInteger s => "Default " ++ s ++ " is not an integer"
  | numberWanted => "Default must be a number"
  | boolWanted => "Default must be true or false"
  | notDate s => "Default " ++ s ++ " is not a YYYY-MM-DD date"
  | dateWanted => "Default must be a YYYY-MM-DD date string"
  | unsupported => "Defaults are not supported for array and object parameters"
  | notAllowed s => "Default " ++ s ++ " is not one of the allowed values"

/-- Whether the characters have the form of a date: four digits, two and two, with dashes between
them. The digits may be those of any script. -/
def isDateForm : List Char → Bool
  | [a, b, c, d, m, e, f, n, g, h] =>
    [a, b, c, d, e, f, g, h].all Text.decimalDigit.contains && m == '-' && n == '-'
  | _ => false

/-- The fault of a text as a default. -/
def textFault? (type : ParamType) (s : String) : Option DefaultFault :=
  match type with
  | .number =>
    if (Binary64.read? (Text.trim s)).isSome then none else some (.notNumber (Text.inspect s))
  | .integer =>
    if (readInteger? (Text.trim s)).isSome then none else some (.notInteger (Text.inspect s))
  | .boolean => if s = "true" ∨ s = "false" then none else some .boolWanted
  | .date => if isDateForm s.toList then none else some (.notDate (Text.inspect s))
  | _ => none

/-- The fault of a number as a default. -/
def numberFault? (type : ParamType) (n : JsonNumber) : Option DefaultFault :=
  match type with
  | .integer => if n.isInteger then none else some (.notInteger n.text)
  | .boolean => some .boolWanted
  | .date => some .dateWanted
  | _ => none

/-- The fault of a truth value as a default. -/
def boolFault? (type : ParamType) : Option DefaultFault :=
  match type with
  | .number | .integer => some .numberWanted
  | .date => some .dateWanted
  | _ => none

/-- The fault of a default that is none of the alternatives, if there are any. -/
def choiceFault? (alternatives : Option (List String)) (raw : String) : Option DefaultFault :=
  match alternatives with
  | some values => if values.contains raw then none else some (.notAllowed (Text.inspect raw))
  | none => none

/-- The fault of a default for a type, where constraints may name the alternatives. -/
def defaultFault? (type : ParamType) (c : Constraints) (v : DefaultValue) : Option DefaultFault :=
  if type = .array ∨ type = .object then some .unsupported
  else if type = .enum then choiceFault? c.alternatives v.raw
  else match v with
    | .string s => textFault? type s
    | .number n => numberFault? type n
    | .bool _ => boolFault? type

end Scaffold
