import Scaffold.Json.Printer
import Scaffold.Report.Flat
import Scaffold.Report.OutputFormat
import Scaffold.Report.Tree

namespace Scaffold

/-- The text of a value in a format. Only the pretty format has colours. -/
def OutputFormat.format (f : OutputFormat) (colors : Bool) (value : Json) : String :=
  match f with
  | json => value.pretty
  | text => Report.flat value
  | pretty => Report.tree colors value

end Scaffold
