import Scaffold.Failure
import Scaffold.Template.Reader
import Scaffold.Template.Render

namespace Scaffold.Template

/-- Templates by name; of two with one name the first counts. -/
structure Library where
  entries : List (String × List Part) := []

namespace Library

/-- The template with a name. -/
def find? (library : Library) (name : String) : Option (List Part) := library.entries.lookup name

/-- Whether there is a template with a name. -/
def contains (library : Library) (name : String) : Bool := (library.find? name).isSome

/-- The library with one more template, in place of any with its name. -/
def register (library : Library) (name : String) (text : List Char) :
    Except Failure Library :=
  match parse? text with
  | some parts => .ok ⟨(name, parts) :: library.entries.filter fun (n, _) => n ≠ name⟩
  | none => .error (.template name "failed to register template")

/-- The text of a template for a value. -/
def render (library : Library) (name : String) (value : Json) : Except Failure String :=
  match (library.find? name).bind fun parts => render? parts value with
  | some s => .ok s
  | none => .error (.template name "rendering failed")

end Library

end Scaffold.Template
