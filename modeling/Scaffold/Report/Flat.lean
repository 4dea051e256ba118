import Scaffold.Json.Printer

namespace Scaffold.Report

/-- The path of a member below a path. -/
def memberPath (path key : String) : String := if path.isEmpty then key else path ++ "." ++ key

/-- The path of an item below a path. -/
def itemPath (path : String) (index : Nat) : String := path ++ "[" ++ toString index ++ "]"

/-- The line of a value that has none inside it. -/
def leafLine (path : String) : Json → String
  | .string s => path ++ ": " ++ s
  | value => path ++ ": " ++ value.compact

mutual

/-- The lines of a value at a path. -/
def flatLines (path : String) : Json → List String
  | .object (member :: members) => memberLines path (member :: members)
  | .array (item :: items) => itemLines path 0 (item :: items)
  | value => [leafLine path value]

/-- The lines of the members of an object. -/
def memberLines (path : String) : List (String × Json) → List String
  | [] => []
  | (key, value) :: rest => flatLines (memberPath path key) value ++ memberLines path rest

/-- The lines of the items of a list, the first of which has the given index. -/
def itemLines (path : String) (index : Nat) : List Json → List String
  | [] => []
  | item :: rest => flatLines (itemPath path index) item ++ itemLines path (index + 1) rest

end

/-- The value as lines. -/
def flat (value : Json) : String := "\n".intercalate (flatLines "" value)

end Scaffold.Report
