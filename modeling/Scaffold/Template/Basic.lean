namespace Scaffold.Template

/-- A way from the current value to one inside it: names of members or positions of items. A local
path leads to a variable of the innermost repeated block instead. -/
structure Path where
  isLocal : Bool
  names : List String
deriving DecidableEq, Repr

/-- A part of a template. -/
inductive Part where
  | text (s : String)
  /-- The text of a value. -/
  | value (path : Path)
  /-- One of two lists of parts, as the value counts as true or not. -/
  | choice (condition : Path) (yes no : List Part)
  /-- The parts once for each item of a list, or other parts if there is no item. -/
  | each (list : Path) (body : List Part) (otherwise : Option (List Part))
  /-- A call of something that has no definition. -/
  | unknown

end Scaffold.Template
