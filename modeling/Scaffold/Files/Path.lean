import Scaffold.Text.LineEnd

namespace Scaffold.Path

/-- Whether a path starts at the root. -/
def isAbsolute (path : String) : Bool := path.toList.head? == some '/'

/-- The path of a name below a directory. -/
def join (directory name : String) : String :=
  if directory.isEmpty then name
  else if directory.toList.getLast? = some '/' then directory ++ name
  else directory ++ "/" ++ name

/-- The names of a path. -/
def names (path : String) : List String :=
  ((Text.splitWhere (· = '/') path.toList).filter fun name => !name.isEmpty).map String.ofList

/-- The steps of a path that must lead to something: a slash at the end is a step of its own, which
only a directory allows. -/
def steps (path : String) : List String :=
  if path.toList.getLast? = some '/' then names path ++ ["."] else names path

end Scaffold.Path
