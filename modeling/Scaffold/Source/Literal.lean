import Scaffold.Server.Description
import Scaffold.Text.Quoted

namespace Scaffold

/-- The values that an enum parameter allows, if it names any. -/
def Parameter.alternatives (p : Parameter) : Option (List String) :=
  if p.type = .enum then p.constraints.bind Constraints.alternatives else none

/-- A default value as a literal of a language that spells truth values by `spell`. A textual type
takes a string literal; for every other type the text of the value stands as it is. -/
def DefaultValue.literal (type : ParamType) (spell : Bool → String) (v : DefaultValue) : String :=
  if type.isTextual then Text.quote v.raw
  else match v with
    | bool b => spell b
    | string "true" => spell true
    | string "false" => spell false
    | v => v.raw

/-- Several texts as string literals. -/
def quoteAll (values : List String) : List String := values.map Text.quote

end Scaffold
