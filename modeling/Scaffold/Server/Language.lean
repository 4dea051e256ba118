import Scaffold.Failure
import Scaffold.Text.Lowercase

namespace Scaffold

/-- A language of generated servers. -/
inductive Language where
  | python
  | typeScript
deriving DecidableEq, Repr

namespace Language

/-- The name of the language in a server description. -/
def name : Language → String
  | python => "python"
  | typeScript => "typescript"

/-- The name of the language for people. -/
def displayName : Language → String
  | python => "Python"
  | typeScript => "TypeScript"

/-- The language with this name. -/
def ofName? (s : String) : Option Language :=
  if s = "python" then some python else if s = "typescript" then some typeScript else none

/-- The name of a language is read as that language. -/
theorem ofName?_name (l : Language) : ofName? l.name = some l := by
  cases l <;> rfl

/-- The language that a person names, in letters of any case. -/
def parse (s : String) : Except Failure Language :=
  match ofName? (Text.lowercase s) with
  | some l => .ok l
  | none =>
    .error (.argument ("invalid server type: '" ++ s ++ "' (expected: python or typescript)"))

end Language

end Scaffold
