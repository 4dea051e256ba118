namespace Scaffold

/-- A shell that completions can be written for. -/
inductive Shell where
  | bash
  | elvish
  | fish
  | powershell
  | zsh
deriving DecidableEq, Repr

namespace Shell

/-- The name of a shell. -/
def name : Shell → String
  | bash => "bash"
  | elvish => "elvish"
  | fish => "fish"
  | powershell => "powershell"
  | zsh => "zsh"

/-- The shell with a name. -/
def ofName? (s : String) : Option Shell :=
  [bash, elvish, fish, powershell, zsh].find? (·.name == s)

/-- The name of a shell is read as that shell. -/
theorem ofName?_name (shell : Shell) : ofName? shell.name = some shell := by
  cases shell <;> rfl

end Shell

end Scaffold
