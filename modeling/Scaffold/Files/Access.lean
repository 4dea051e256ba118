import Scaffold.Files.Tree

namespace Scaffold

/-- A way of access to files by their paths. -/
class FileAccess (m : Type → Type) where
  /-- The content of a file. -/
  read : (path : String) → m (Except FileProblem String)
  /-- Whether there is anything under a path. -/
  exists? : (path : String) → m Bool
  /-- Whether there is a file under a path. -/
  isFile : (path : String) → m Bool
  /-- Makes a directory with those on the way to it. -/
  makeDirectories : (path : String) → m (Except FileProblem Unit)
  /-- Puts a content into a file, which is made if there is none. -/
  write : (path content : String) → m (Except FileProblem Unit)
  /-- Makes a file executable. -/
  markExecutable : (path : String) → m (Except FileProblem Unit)

namespace FileTree

/-- A change of a tree as an action, which leaves the tree as it is if the change fails. -/
def attempt (change : FileTree → Except FileProblem FileTree) :
    StateM FileTree (Except FileProblem Unit) := fun tree =>
  match change tree with
  | .ok changed => (.ok (), changed)
  | .error e => (.error e, tree)

instance : FileAccess (StateM FileTree) where
  read path := fun tree => (tree.read path, tree)
  exists? path := fun tree => ((tree.entryAt? path).isSome, tree)
  isFile path := fun tree =>
    (match tree.entryAt? path with
      | some (.file ..) => true
      | _ => false, tree)
  makeDirectories path := fun tree => tree.makeDirectories path
  write path content := attempt fun tree => tree.write path content
  markExecutable path := attempt fun tree => tree.markExecutable path

end FileTree

end Scaffold
