import Scaffold.Command.Run

namespace Scaffold

namespace Command

variable {α β : Type}

/-- What a command comes to on a tree, with the tree that it leaves. -/
def onTree (command : ExceptT Trouble (StateM FileTree) α) (tree : FileTree) : Except Trouble α × FileTree :=
  command.run.run tree

theorem onTree_pure (a : α) (tree : FileTree) : onTree (pure a) tree = (.ok a, tree) := rfl

theorem onTree_bind (command : ExceptT Trouble (StateM FileTree) α)
    (next : α → ExceptT Trouble (StateM FileTree) β) (tree : FileTree) :
    onTree (command >>= next) tree =
      match onTree command tree with
      | (.ok a, after) => onTree (next a) after
      | (.error trouble, after) => (.error trouble, after) := by
  have hrun : onTree (command >>= next) tree =
      onTree (ExceptT.mk (ExceptT.bindCont next (onTree command tree).1)) (onTree command tree).2 := rfl
  rw [hrun]
  obtain ⟨result, after⟩ := onTree command tree
  cases result <;> rfl

theorem onTree_bind_of_ok {command : ExceptT Trouble (StateM FileTree) α}
    {next : α → ExceptT Trouble (StateM FileTree) β} {tree after : FileTree} {a : α}
    (h : onTree command tree = (.ok a, after)) : onTree (command >>= next) tree = onTree (next a) after := by
  rw [onTree_bind, h]

/-- A command that comes to an outcome does so step by step. -/
theorem onTree_bind_eq_ok_iff {command : ExceptT Trouble (StateM FileTree) α}
    {next : α → ExceptT Trouble (StateM FileTree) β} {tree after : FileTree} {b : β} :
    onTree (command >>= next) tree = (.ok b, after) ↔
      ∃ a middle, onTree command tree = (.ok a, middle) ∧ onTree (next a) middle = (.ok b, after) := by
  rw [onTree_bind]
  obtain ⟨result, middle⟩ := onTree command tree
  constructor
  · intro h
    cases result with
    | ok a => exact ⟨a, middle, rfl, h⟩
    | error trouble => cases congrArg Prod.fst h
  · rintro ⟨a, other, heq, h⟩
    cases heq
    exact h

/-- A command that is stopped is stopped by its first step or behind it. -/
theorem onTree_bind_eq_error_iff {command : ExceptT Trouble (StateM FileTree) α}
    {next : α → ExceptT Trouble (StateM FileTree) β} {tree after : FileTree} {trouble : Trouble} :
    onTree (command >>= next) tree = (.error trouble, after) ↔
      onTree command tree = (.error trouble, after) ∨
        ∃ a middle, onTree command tree = (.ok a, middle) ∧
          onTree (next a) middle = (.error trouble, after) := by
  rw [onTree_bind]
  obtain ⟨result, middle⟩ := onTree command tree
  cases result with
  | ok a =>
    constructor
    · exact fun h => .inr ⟨a, middle, rfl, h⟩
    · rintro (h | ⟨a', other, heq, h⟩)
      · cases congrArg Prod.fst h
      · cases heq
        exact h
  | error trouble' =>
    constructor
    · intro h
      cases h
      exact .inl rfl
    · rintro (h | ⟨a', other, heq, h⟩)
      · cases h
        rfl
      · cases congrArg Prod.fst heq

theorem onTree_orTrouble (message : String) (answer : StateM FileTree (Except FileProblem α))
    (tree : FileTree) :
    onTree (orTrouble message answer) tree =
      match answer.run tree with
      | (.ok a, after) => (.ok a, after)
      | (.error problem, after) => (.error { message, causes := [problem.message] }, after) := by
  have hanswer : onTree (monadLift answer) tree = (.ok (answer.run tree).1, (answer.run tree).2) := rfl
  rw [orTrouble, onTree_bind_of_ok hanswer]
  obtain ⟨result, after⟩ := answer.run tree
  cases result <;> rfl

theorem onTree_orTrouble_eq_ok_iff {message : String} {answer : StateM FileTree (Except FileProblem α)}
    {tree after : FileTree} {a : α} :
    onTree (orTrouble message answer) tree = (.ok a, after) ↔ answer.run tree = (.ok a, after) := by
  rw [onTree_orTrouble]
  obtain ⟨result, middle⟩ := answer.run tree
  cases result with
  | ok a' =>
    constructor <;> intro h <;> cases h <;> rfl
  | error problem =>
    constructor <;> intro h <;> cases congrArg Prod.fst h

theorem exists_of_onTree_orTrouble_eq_error {message : String}
    {answer : StateM FileTree (Except FileProblem α)} {tree after : FileTree} {trouble : Trouble}
    (h : onTree (orTrouble message answer) tree = (.error trouble, after)) :
    ∃ problem, trouble = { message, causes := [problem] } := by
  rw [onTree_orTrouble] at h
  cases hanswer : answer.run tree with
  | mk result middle =>
    rw [hanswer] at h
    cases result with
    | ok a => cases congrArg Prod.fst h
    | error problem =>
      cases h
      exact ⟨problem.message, rfl⟩

/-- The outcome of a run whose command has come to this result. -/
def outcomeOf : Except Trouble Outcome → Outcome
  | .ok outcome => outcome
  | .error trouble => .ofTrouble trouble

/-- The number that a run of a command on a tree ends with. -/
def exitStatus [Pattern.SizeLimit] (env : Environment) (format : OutputFormat) (command : Command)
    (tree : FileTree) : ExitStatus :=
  (outcomeOf (onTree (command.run env format) tree).1).status

end Command

/-- A run whose format is known ends as its command does. -/
theorem Invocation.run_eq_onTree [Pattern.SizeLimit] {env : Environment} {invocation : Invocation}
    {format : OutputFormat} (h : OutputFormat.parse invocation.format = .ok format) (tree : FileTree) :
    (invocation.run env : StateM FileTree Outcome).run tree =
      (Command.outcomeOf (Command.onTree (invocation.command.run env format) tree).1,
        (Command.onTree (invocation.command.run env format) tree).2) := by
  unfold Invocation.run
  rw [h]
  change (match (Command.onTree (invocation.command.run env format) tree).1 with
    | .ok outcome => (pure outcome : StateM FileTree Outcome)
    | .error trouble => pure (.ofTrouble trouble)).run
      (Command.onTree (invocation.command.run env format) tree).2 = _
  obtain ⟨result, after⟩ := Command.onTree (invocation.command.run env format) tree
  cases result <;> rfl

end Scaffold
