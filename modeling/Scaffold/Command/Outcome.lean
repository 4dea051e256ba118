import Scaffold.Command.ExitStatus
import Scaffold.Command.Trouble

namespace Scaffold

/-- What comes of a run: the number it ends with, and what it prints. -/
structure Outcome where
  status : ExitStatus := .success
  output : String := ""
  errors : String := ""
deriving DecidableEq

/-- The outcome of a run that is stopped. -/
def Outcome.ofTrouble (t : Trouble) : Outcome := { status := .error, errors := t.text }

end Scaffold
