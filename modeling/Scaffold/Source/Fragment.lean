import Scaffold.Json.Printer

namespace Scaffold

/-- How the pieces of a validator are joined. -/
inductive SpliceStyle where
  /-- Each piece is a keyword argument behind a comma. -/
  | keywordArguments
  /-- Each piece is a call chained to the one before. -/
  | chainedCalls
deriving DecidableEq, Repr

/-- The name of a style. -/
def SpliceStyle.name : SpliceStyle → String
  | keywordArguments => "KeywordArguments"
  | chainedCalls => "ChainedCalls"

/-- What the constraints of a parameter come to in one language: a type in place of the base type,
if any, and the pieces of the validator in order. -/
structure Fragment where
  typeOverride : Option String := none
  parts : List String := []
  style : SpliceStyle
deriving DecidableEq, Repr

namespace Fragment

/-- The fragment with one more piece at the end. -/
def push (f : Fragment) (part : String) : Fragment := { f with parts := f.parts ++ [part] }

/-- Whether the fragment changes nothing. -/
def isEmpty (f : Fragment) : Bool := f.typeOverride.isNone && f.parts.isEmpty

/-- The pieces as they are joined to a declaration. -/
def splice (f : Fragment) : String :=
  match f.style with
  | .keywordArguments => String.join (f.parts.map (", " ++ ·))
  | .chainedCalls => String.join f.parts

/-- The base type, or the type in its place. -/
def resolve (f : Fragment) (base : String) : String := f.typeOverride.getD base

/-- A fragment as JSON. -/
def toJson (f : Fragment) : Json := .object [
  ("type_override", (f.typeOverride.map Json.string).getD .null),
  ("parts", .array (f.parts.map .string)),
  ("style", .string f.style.name)]

end Fragment

end Scaffold
