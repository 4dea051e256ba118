import Scaffold.Json.Basic
import Scaffold.Text.Quoted

namespace Scaffold.Json

mutual

/-- The text of a value on one line. -/
def compact : Json → String
  | null => "null"
  | bool true => "true"
  | bool false => "false"
  | number n => n.text
  | string s => Text.jsonQuote s
  | array items => "[" ++ ",".intercalate (compactItems items) ++ "]"
  | object members => "\x7b" ++ ",".intercalate (compactMembers members) ++ "\x7d"

/-- The texts of the items of a list. -/
def compactItems : List Json → List String
  | [] => []
  | item :: rest => compact item :: compactItems rest

/-- The texts of the members of an object. -/
def compactMembers : List (String × Json) → List String
  | [] => []
  | (key, value) :: rest => (Text.jsonQuote key ++ ":" ++ compact value) :: compactMembers rest

end

/-- The start of a line `depth` levels deep. -/
def indentation (depth : Nat) : String := String.ofList (List.replicate (2 * depth) ' ')

/-- The parts between two brackets, each on a line of its own one level deeper than `depth`. -/
def layOut (opening closing : String) (depth : Nat) (parts : List String) : String :=
  if parts.isEmpty then opening ++ closing
  else
    let inner := indentation (depth + 1)
    opening ++ "\n" ++ ",\n".intercalate (parts.map (inner ++ ·)) ++ "\n" ++ indentation depth ++
      closing

mutual

/-- The text of a value over several lines, as it stands `depth` levels deep. -/
def prettyAt (depth : Nat) : Json → String
  | null => "null"
  | bool true => "true"
  | bool false => "false"
  | number n => n.text
  | string s => Text.jsonQuote s
  | array items => layOut "[" "]" depth (prettyItems (depth + 1) items)
  | object members => layOut "\x7b" "\x7d" depth (prettyMembers (depth + 1) members)

/-- The texts of the items of a list. -/
def prettyItems (depth : Nat) : List Json → List String
  | [] => []
  | item :: rest => prettyAt depth item :: prettyItems depth rest

/-- The texts of the members of an object. -/
def prettyMembers (depth : Nat) : List (String × Json) → List String
  | [] => []
  | (key, value) :: rest =>
    (Text.jsonQuote key ++ ": " ++ prettyAt depth value) :: prettyMembers depth rest

end

/-- The text of a value over several lines. -/
def pretty (value : Json) : String := prettyAt 0 value

end Scaffold.Json
