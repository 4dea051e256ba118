namespace Scaffold

/-- The number that a run ends with. -/
structure ExitStatus where
  code : Int
deriving DecidableEq, Repr

namespace ExitStatus

/-- The run did what it was asked to do. -/
def success : ExitStatus := ⟨0⟩

/-- The run failed. -/
def error : ExitStatus := ⟨1⟩

/-- The server description is malformed or breaks a rule, or the command line cannot be read. -/
def invalidInput : ExitStatus := ⟨2⟩

instance : Inhabited ExitStatus := ⟨success⟩

/-- Whether the run did what it was asked to do. -/
def isSuccess (s : ExitStatus) : Bool := s.code == 0

end ExitStatus

end Scaffold
