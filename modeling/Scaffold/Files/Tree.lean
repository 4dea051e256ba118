import Scaffold.Files.Path
import Scaffold.Files.Problem
import Scaffold.Keyed

/-!
Trees of files. A tree is a map from places to what is there, where a place is the list of the names
that lead to it from the root, and the root is always a directory.
-/

namespace Scaffold

/-- What is at a place. -/
inductive Entry where
  | directory
  | file (content : String) (executable : Bool)
deriving DecidableEq, Repr

/-- A place in a tree: the names that lead to it from the root. -/
abbrev Place := List String

/-- A tree of files, and the place where relative paths start. -/
structure FileTree where
  entries : List (Place × Entry)
  here : Place

namespace FileTree

/-- What is at a place. -/
def find? (tree : FileTree) (place : Place) : Option Entry :=
  if place = [] then some .directory else tree.entries.lookup place

/-- The tree with a new entry at a place. -/
def put (tree : FileTree) (place : Place) (entry : Entry) : FileTree :=
  { tree with entries := Keyed.put place entry tree.entries }

/-- What was put at a place other than the root is found there, and nothing else changes. -/
theorem find?_put (tree : FileTree) (place other : Place) (entry : Entry) :
    (tree.put place entry).find? other =
      if other ≠ [] ∧ other = place then some entry else tree.find? other := by
  by_cases hr : other = []
  · simp only [find?, hr, if_true, ne_eq, not_true, false_and, if_false]
  · simp only [find?, put, hr, if_false, Keyed.lookup_put, beq_iff_eq, ne_eq, not_false_eq_true,
      true_and]

/-- The place one step from a place. -/
def step (place : Place) (name : String) : Place :=
  if name = "." then place else if name = ".." then place.dropLast else place ++ [name]

/-- The place that steps lead to from a directory. All but the last step must lead to directories.
-/
def walk (tree : FileTree) : Place → List String → Except FileProblem Place
  | place, [] => .ok place
  | place, [name] => .ok (step place name)
  | place, name :: rest =>
    match tree.find? (step place name) with
    | some .directory => walk tree (step place name) rest
    | some (.file ..) => .error .notDirectory
    | none => .error .missing

/-- The place where a path starts. -/
def start (tree : FileTree) (path : String) : Place :=
  if Path.isAbsolute path then [] else tree.here

/-- The place that a path leads to. -/
def locate (tree : FileTree) (path : String) : Except FileProblem Place :=
  tree.walk (tree.start path) (Path.steps path)

/-- What is under a path. -/
def entryAt? (tree : FileTree) (path : String) : Option Entry :=
  match tree.locate path with
  | .ok place => tree.find? place
  | .error _ => none

/-- The content of the file under a path. -/
def read (tree : FileTree) (path : String) : Except FileProblem String := do
  match tree.find? (← tree.locate path) with
  | some (.file content _) => return content
  | some .directory => throw .isDirectory
  | none => throw .missing

/-- The tree with a content in the file under a path, which is made if there is none. -/
def write (tree : FileTree) (path content : String) : Except FileProblem FileTree := do
  let place ← tree.locate path
  match tree.find? place with
  | some (.file _ executable) => return tree.put place (.file content executable)
  | some .directory => throw .isDirectory
  | none => return tree.put place (.file content false)

/-- The tree with the file under a path made executable. -/
def markExecutable (tree : FileTree) (path : String) : Except FileProblem FileTree := do
  let place ← tree.locate path
  match tree.find? place with
  | some (.file content _) => return tree.put place (.file content true)
  | some .directory => return tree
  | none => throw .missing

/-- The tree with a directory at the end of steps, where there is nothing yet. -/
def makeDirectory (tree : FileTree) (place : Place) (steps : List String) :
    Except FileProblem FileTree := do
  let target ← tree.walk place steps
  match tree.find? target with
  | some _ => throw .taken
  | none => return tree.put target .directory

/-- Whether steps lead to a directory. -/
def leadsToDirectory (tree : FileTree) (place : Place) (steps : List String) : Bool :=
  match tree.walk place steps with
  | .ok target => tree.find? target = some .directory
  | .error _ => false

/-- The answer to making a directory: one that is there already is as good as a new one. -/
def settle (tree : FileTree) (place : Place) (steps : List String) :
    Except FileProblem FileTree → Except FileProblem Unit × FileTree
  | .ok changed => (.ok (), changed)
  | .error e => if tree.leadsToDirectory place steps then (.ok (), tree) else (.error e, tree)

/-- Makes the directory at the end of steps, given last step first, with those on the way. What has
been made stays if a later step fails. -/
def makeAll (tree : FileTree) (place : Place) :
    (reversed : List String) → Except FileProblem Unit × FileTree
  | [] => (.ok (), tree)
  | last :: before =>
    let steps := (last :: before).reverse
    match tree.makeDirectory place steps with
    | .error .missing =>
      match tree.makeAll place before with
      | (.ok _, tree) => tree.settle place steps (tree.makeDirectory place steps)
      | failed => failed
    | made => tree.settle place steps made

/-- Makes the directory under a path with those on the way to it. -/
def makeDirectories (tree : FileTree) (path : String) : Except FileProblem Unit × FileTree :=
  tree.makeAll (tree.start path) (Path.names path).reverse

end FileTree

end Scaffold
