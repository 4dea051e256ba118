import Scaffold.Text.Blank
import Scaffold.Text.Lowercase
import Scaffold.Text.Table.IdentifierContinue
import Scaffold.Text.Table.IdentifierStart

namespace Scaffold.Text

/-- Whether a text is an identifier: a letter or an underscore, then letters, digits and marks. -/
def isIdentifier (s : String) : Bool :=
  match s.toList with
  | [] => false
  | c :: rest =>
    (identifierStart.contains c || c == '_') && rest.all identifierContinue.contains

/-- The characters with every run of blanks made one underscore. `afterBlank` says whether the
character before them is a blank. -/
def underscoreBlanks (afterBlank : Bool) : List Char → List Char
  | [] => []
  | c :: rest =>
    if isBlank c then
      if afterBlank then underscoreBlanks true rest else '_' :: underscoreBlanks true rest
    else c :: underscoreBlanks false rest

/-- The identifier of a name: each run of blanks becomes one underscore, and letters small. -/
def identifierOf (name : String) : String :=
  String.ofList (lowerFrom false (underscoreBlanks false name.toList))

/-- The small ASCII letters and digits of a text, with one dash for each gap between two of them.
`started` says whether one has been written, `gap` whether other characters came after it. -/
def slugChars (started gap : Bool) : List Char → List Char
  | [] => []
  | c :: rest =>
    if c.isAlphanum then
      if started && gap then '-' :: c.toLower :: slugChars true false rest
      else c.toLower :: slugChars true false rest
    else slugChars started true rest

/-- The slug of a display name, for package names, image tags and directories. -/
def slugOf (name : String) : String :=
  match slugChars false false name.toList with
  | [] => "mcp-server"
  | cs => String.ofList cs

end Scaffold.Text
