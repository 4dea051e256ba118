import Scaffold.Command.Run

namespace Scaffold

/-- Why the system refuses. -/
def problemOfError : IO.Error → FileProblem
  | .noFileOrDirectory .. => .missing
  | .alreadyExists .. => .taken
  | .inappropriateType .. => .notDirectory
  | e => .other (toString e)

/-- The answer of the system. -/
def answerOf {α : Type} (action : IO α) : IO (Except FileProblem α) := do
  try
    return .ok (← action)
  catch e =>
    return .error (problemOfError e)

/-- Whether the system does what it is asked to do. -/
def succeeds {α : Type} (action : IO α) : IO Bool := do
  try
    discard action
    return true
  catch _ =>
    return false

instance : FileAccess IO where
  read path := answerOf (IO.FS.readFile path)
  exists? path := succeeds (IO.FS.Handle.mk path .read)
  isFile path := succeeds (IO.FS.readBinFile path)
  makeDirectories path := answerOf (IO.FS.createDirAll path)
  write path content := answerOf (IO.FS.writeFile path content)
  markExecutable path :=
    let others : IO.AccessRight := { read := true, execution := true }
    answerOf (IO.setAccessRights path
      { user := { others with write := true }, group := others, other := others })

/-- What the run finds around it. -/
def environment : IO Environment := do
  let mut bindings := []
  for name in Environment.names do
    if let some value ← IO.getEnv name then
      bindings := (name, value) :: bindings
  return { bindings, terminal := ← (← IO.getStdout).isTty }

/-- Runs the program over the files of the system, and answers the number it ends with. -/
def runHere (arguments : List String) : IO UInt32 := do
  let outcome : Outcome ← runProgram (← environment) arguments
  IO.print outcome.output
  IO.eprint outcome.errors
  return UInt32.ofNat outcome.status.code.toNat

end Scaffold

/-- Runs the program. -/
def main (arguments : List String) : IO UInt32 := Scaffold.runHere arguments
