import Scaffold.Text.Identifier
import Scaffold.Text.Inspect

namespace Scaffold

/-- The words of Python, in small letters. -/
def pythonWords : List String := [
  "and", "as", "assert", "async", "await", "break", "class", "continue", "def", "del", "elif",
  "else", "except", "false", "finally", "for", "from", "global", "if", "import", "in", "is",
  "lambda", "none", "nonlocal", "not", "or", "pass", "raise", "return", "true", "try", "while",
  "with", "yield"]

/-- The words of JavaScript and TypeScript that are no words of Python, in small letters. -/
def scriptWords : List String := [
  "arguments", "case", "catch", "const", "debugger", "default", "delete", "do", "enum", "eval",
  "export", "extends", "function", "implements", "instanceof", "interface", "let", "new",
  "null", "package", "private", "protected", "public", "static", "super", "switch", "this",
  "throw", "typeof", "var", "void"]

/-- The words that no name may be. -/
def reservedWords : List String := pythonWords ++ scriptWords

/-- The names that generated source binds or uses itself. -/
def generatedNames : List String := [
  "asyncio", "console", "datetime", "json", "os", "process", "requests", "server", "validator",
  "z"]

/-- The name that every generated handler binds for its validated input. -/
def handlerLocal : String := "params"

/-- The endings of the names of the model and of the schema that belong to a tool. -/
def generatedEndings : List String := ["_params", "_schema"]

/-- Whether a name is that of the model or of the schema of a tool. -/
def isGeneratedFor (tool name : String) : Bool := generatedEndings.any fun e => name = tool ++ e

/-- Why a name cannot be used. -/
inductive NameFault where
  | malformed
  | reserved
  | generated
  | duplicate
deriving DecidableEq, Repr

/-- Why an identifier cannot be used next to those in `seen`, if it cannot. -/
def nameFault? (seen : List String) (identifier : String) : Option NameFault :=
  if !Text.isIdentifier identifier then some .malformed
  else if reservedWords.contains identifier then some .reserved
  else if generatedNames.contains identifier then some .generated
  else if seen.contains identifier then some .duplicate
  else none

/-- The words for a fault of a name of this kind, given the name and its identifier. -/
def NameFault.message (kind name identifier : String) : NameFault → String
  | malformed =>
    "Name " ++ Text.inspect name ++ " does not produce a valid identifier (" ++
      Text.inspect identifier ++
      "); use letters, digits, spaces and underscores, not starting with a digit"
  | reserved =>
    "Name " ++ Text.inspect name ++ " normalizes to the reserved word " ++ Text.inspect identifier
  | generated =>
    "Name " ++ Text.inspect name ++ " collides with the generated module name " ++
      Text.inspect identifier
  | duplicate => "Duplicate " ++ kind ++ " name " ++ Text.inspect identifier

end Scaffold
