import Scaffold.Json.Basic
import Scaffold.Report.Paint
import Scaffold.Text.Blank

namespace Scaffold.Report

/-- The text of a value on the line of its label. -/
def scalarText (colors : Bool) : Json → String
  | .null => paint colors .dim "-"
  | .bool true => paint colors .green "yes"
  | .bool false => paint colors .red "no"
  | .number n => paint colors .cyan n.text
  | .string s => s
  | .array [] => paint colors .dim "none"
  | .array _ | .object _ => ""

/-- Whether a value has values inside it. -/
def isNested : Json → Bool
  | .object members => !members.isEmpty
  | .array items => !items.isEmpty
  | _ => false

/-- The label of a member: its key, with spaces for underscores. -/
def labelOf (colors : Bool) (key : String) : String :=
  paint colors .boldBlue (String.ofList (key.toList.map fun c => if c = '_' then ' ' else c))

/-- The start of a line so many levels deep. -/
def pad (depth : Nat) : String := String.ofList (List.replicate (2 * depth) ' ')

mutual

/-- The lines of a value so many levels deep, each ended. -/
def treeText (colors : Bool) (depth : Nat) : Json → String
  | .object members => memberTexts colors depth members
  | .array items => itemTexts colors depth items
  | value => pad depth ++ scalarText colors value ++ "\n"

/-- The lines of the members of an object. -/
def memberTexts (colors : Bool) (depth : Nat) : List (String × Json) → String
  | [] => ""
  | (key, value) :: rest =>
    pad depth ++ labelOf colors key ++ ":" ++
    (if isNested value then "\n" ++ treeText colors (depth + 1) value
      else " " ++ scalarText colors value ++ "\n") ++
    memberTexts colors depth rest

/-- The lines of the items of a list. -/
def itemTexts (colors : Bool) (depth : Nat) : List Json → String
  | [] => ""
  | item :: rest =>
    pad depth ++ "-" ++
    (if isNested item then "\n" ++ treeText colors (depth + 1) item
      else " " ++ scalarText colors item ++ "\n") ++
    itemTexts colors depth rest

end

/-- The value as a tree. -/
def tree (colors : Bool) (value : Json) : String := Text.trimEnd (treeText colors 0 value)

end Scaffold.Report
