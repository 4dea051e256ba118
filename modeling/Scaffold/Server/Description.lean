import Scaffold.Json.Basic
import Scaffold.Server.Language
import Scaffold.Server.ParamType

namespace Scaffold

/-- The default value of a parameter. -/
inductive DefaultValue where
  | bool (value : Bool)
  | number (value : JsonNumber)
  | string (value : String)
deriving DecidableEq

/-- The constraints on a parameter. An absent one constrains nothing. -/
structure Constraints where
  minLength : Option UInt64 := none
  maxLength : Option UInt64 := none
  pattern : Option String := none
  minimum : Option Binary64 := none
  maximum : Option Binary64 := none
  allowed : Option (List String) := none
  default : Option DefaultValue := none
  required : Option Bool := none
deriving DecidableEq

/-- A typed input of a tool. -/
structure Parameter where
  id : String := ""
  name : String
  type : ParamType
  description : String := ""
  constraints : Option Constraints := none
deriving DecidableEq

/-- A unit of what a server does. -/
structure Tool where
  id : String := ""
  name : String
  description : String := ""
  parameters : List Parameter := []
deriving DecidableEq

/-- A server description. -/
structure Server where
  name : String
  description : String := ""
  language : Language
  tools : List Tool := []
deriving DecidableEq

/-- The word for a truth value in JSON. -/
def boolText (b : Bool) : String := if b then "true" else "false"

/-- The text of a default value without quotes. -/
def DefaultValue.raw : DefaultValue → String
  | bool b => boolText b
  | number n => n.text
  | string s => s

/-- The allowed values, if there are any. -/
def Constraints.alternatives (c : Constraints) : Option (List String) :=
  match c.allowed with
  | some (v :: vs) => some (v :: vs)
  | _ => none

-- The sum of no numbers is the numeral zero, also in modules that see the zeros of algebra.
attribute [local instance (high)] Zero.ofOfNat0

/-- The number of parameters of all tools. -/
def Server.parameterCount (s : Server) : Nat := (s.tools.map fun t => t.parameters.length).sum

end Scaffold
