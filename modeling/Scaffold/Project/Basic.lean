import Scaffold.Json.Printer
import Scaffold.Json.Record
import Scaffold.Text.LineEnd

namespace Scaffold

/-- A file of a generated project, by its path inside the project. -/
structure ProjectFile where
  path : String
  content : String
deriving DecidableEq, Repr

/-- A generated project. -/
structure Project where
  files : List ProjectFile := []
deriving DecidableEq, Repr

/-- The name that a project has no file for, and the paths of the files it has. -/
structure UnknownFile where
  name : String
  available : List String
deriving DecidableEq, Repr

/-- The words for a file that a project does not have. -/
def UnknownFile.message (e : UnknownFile) : String :=
  "no generated file named '" ++ e.name ++ "'; available: " ++ ", ".intercalate e.available

namespace ProjectFile

/-- The steps of a path, without those that stay where they are. -/
def pathSteps (path : List Char) : List (List Char) :=
  (Text.splitWhere (· = '/') path).filter fun step => step ≠ [] ∧ step ≠ ['.']

/-- The name of the file that a path leads to, if it ends in one. -/
def fileName? (path : List Char) : Option (List Char) :=
  match (pathSteps path).getLast? with
  | some ['.', '.'] => none
  | last => last

/-- What stands in a file name after its last dot, unless the name starts with that dot. -/
def extension? (name : List Char) : Option (List Char) :=
  match Text.splitWhere (· = '.') name with
  | [] | [_] => none
  | [[], _] => none
  | pieces => pieces.getLast?

/-- Whether the file is a script to be run: its name has the extension `sh`, in letters of any
case. -/
def isExecutable (file : ProjectFile) : Bool :=
  match (fileName? file.path.toList).bind extension? with
  | some e => e.map Char.toLower == ['s', 'h']
  | none => false

/-- Files as they are read from JSON. -/
def shape : Json.Shape ProjectFile where
  name := "GeneratedFile"
  fields := [
    Json.field "path" true Json.aString fun v f => { f with path := v },
    Json.field "content" true Json.aString fun v f => { f with content := v }]
  blank := ⟨"", ""⟩

/-- Reads a file. -/
def decode : Json.Decoder ProjectFile := Json.aRecord shape

/-- A file as JSON. -/
def toJson (file : ProjectFile) : Json :=
  .object [("path", .string file.path), ("content", .string file.content)]

end ProjectFile

namespace Project

/-- The project with one more file at the end. -/
def add (project : Project) (file : ProjectFile) : Project := ⟨project.files ++ [file]⟩

/-- The first file with a path. -/
def find? (project : Project) (path : String) : Option ProjectFile :=
  project.files.find? fun file => file.path = path

/-- The source of the server. -/
def primary? (project : Project) : Option ProjectFile := project.files.head?

-- The sum of no numbers is the numeral zero, also in modules that see the zeros of algebra.
attribute [local instance (high)] Zero.ofOfNat0

/-- The size of all files in bytes. -/
def totalBytes (project : Project) : Nat :=
  (project.files.map fun file => file.content.utf8ByteSize).sum

/-- The file with a name, or the source of the server if no name is given. -/
def select (project : Project) (name : Option String) : Except UnknownFile ProjectFile :=
  let selected := match name with
    | some path => project.find? path
    | none => project.primary?
  match selected with
  | some file => .ok file
  | none => .error ⟨name.getD "", project.files.map (·.path)⟩

/-- Projects as they are read from JSON. -/
def shape : Json.Shape Project where
  name := "GeneratedCode"
  fields := [Json.field "files" true (Json.aList ProjectFile.decode) fun v _ => ⟨v⟩]
  blank := {}

/-- Reads a project. -/
def decode : Json.Decoder Project := Json.aRecord shape

/-- A project as JSON. -/
def toJson (project : Project) : Json :=
  .object [("files", .array (project.files.map ProjectFile.toJson))]

end Project

end Scaffold
