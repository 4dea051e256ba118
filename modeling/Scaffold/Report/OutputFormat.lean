import Scaffold.Failure
import Scaffold.Text.Lowercase

namespace Scaffold

/-- A format of reports. -/
inductive OutputFormat where
  | json
  | text
  | pretty
deriving DecidableEq, Repr

namespace OutputFormat

/-- People read the pretty format, so it is the one used unless another is asked for. -/
instance : Inhabited OutputFormat := ⟨pretty⟩

/-- The name of the format. -/
def name : OutputFormat → String
  | json => "json"
  | text => "text"
  | pretty => "pretty"

/-- The format with this name. -/
def ofName? (s : String) : Option OutputFormat := [json, text, pretty].find? (·.name == s)

/-- The name of a format is read as that format. -/
theorem ofName?_name (f : OutputFormat) : ofName? f.name = some f := by
  cases f <;> rfl

/-- The format that a person names, in letters of any case. -/
def parse (s : String) : Except Failure OutputFormat :=
  match ofName? (Text.lowercase s) with
  | some f => .ok f
  | none =>
    .error (.argument ("invalid output format: '" ++ s ++ "' (expected: json, text, or pretty)"))

end OutputFormat

end Scaffold
