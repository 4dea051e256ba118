namespace Scaffold

/-- Why the file system refuses. -/
inductive FileProblem where
  /-- There is nothing under the path. -/
  | missing
  /-- There is something under the path already. -/
  | taken
  /-- The path goes through something that is no directory. -/
  | notDirectory
  /-- There is a directory where a file was asked for. -/
  | isDirectory
  /-- Any other reason, in the words of the system. -/
  | other (text : String)
deriving DecidableEq, Repr

/-- The words of the system for a problem. -/
def FileProblem.message : FileProblem → String
  | missing => "No such file or directory (os error 2)"
  | taken => "File exists (os error 17)"
  | notDirectory => "Not a directory (os error 20)"
  | isDirectory => "Is a directory (os error 21)"
  | other text => text

end Scaffold
