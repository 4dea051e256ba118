namespace Scaffold

/-- The abstract type of a parameter. A type name outside the list is kept as `unknown`. -/
inductive ParamType where
  | string
  | number
  | integer
  | boolean
  | array
  | object
  | date
  | email
  | url
  | enum
  | unknown
deriving DecidableEq, Repr

namespace ParamType

/-- The types that have a name of their own, in the order people see them. -/
def known : List ParamType :=
  [string, number, integer, boolean, array, object, date, email, url, enum]

/-- The name of the type in a server description. -/
def name : ParamType → String
  | string => "string"
  | number => "number"
  | integer => "integer"
  | boolean => "boolean"
  | array => "array"
  | object => "object"
  | date => "date"
  | email => "email"
  | url => "url"
  | enum => "enum"
  | unknown => "unknown"

/-- The type with this name. -/
def ofName (s : String) : ParamType := (known.find? (·.name == s)).getD unknown

/-- The name of a type is read as that type. -/
theorem ofName_name (t : ParamType) : ofName t.name = t := by
  cases t <;> rfl

/-- A type is known if it has a name of its own. -/
theorem mem_known_iff (t : ParamType) : t ∈ known ↔ t ≠ unknown := by
  cases t <;> decide

/-- Whether values of the type are text, so that its defaults are written as string literals. -/
def isTextual : ParamType → Bool
  | string | date | email | url | enum | unknown => true
  | _ => false

/-- Whether the type takes limits of length and a pattern. -/
def isStringLike : ParamType → Bool
  | string | email | url | unknown => true
  | _ => false

/-- Whether the type takes numeric bounds. -/
def isNumeric : ParamType → Bool
  | number | integer => true
  | _ => false

/-- A type that takes limits of length holds text. -/
theorem isTextual_of_isStringLike {t : ParamType} (h : t.isStringLike = true) : t.isTextual = true := by
  cases t <;> first | rfl | cases h

/-- A number is no text. -/
theorem isTextual_of_isNumeric {t : ParamType} (h : t.isNumeric = true) : t.isTextual = false := by
  cases t <;> first | rfl | cases h

end ParamType

end Scaffold
