import Scaffold.Proofs.Command.OnTree
import Scaffold.Proofs.Project.Bundle

namespace Scaffold.Command

variable {tree : FileTree}

/-- What stops a command that cannot read its description. -/
def unreadable (path : String) (problem : FileProblem) : Trouble :=
  { message := "failed to read server description " ++ path, causes := [problem.message] }

theorem onTree_withServer (path : String) (next : Server → ExceptT Trouble (StateM FileTree) Outcome)
    (tree : FileTree) :
    onTree (withServer path next) tree =
      match tree.read path with
      | .error problem => (.error (unreadable path problem), tree)
      | .ok text =>
        match Server.ofText text with
        | .ok server => onTree (next server) tree
        | .error failure => (.ok (malformed path failure), tree) := by
  have hread : (FileAccess.read path : StateM FileTree _).run tree = (tree.read path, tree) := rfl
  rw [withServer, readDescription, onTree_bind, onTree_orTrouble, hread]
  cases tree.read path with
  | error problem => rfl
  | ok text =>
    dsimp only
    cases Server.ofText text <;> rfl

theorem valid_check_eq_true_iff [Pattern.SizeLimit] (limits : Limits) (server : Server) :
    (ValidationReport.check limits server).valid = true ↔ server.validate limits = .ok () := by
  unfold ValidationReport.valid ValidationReport.check Server.validate
  dsimp only
  cases server.problems limits <;> simp

/-- The command loads settings or is stopped because it cannot, and leaves the tree. -/
def Loads (command : ExceptT Trouble (StateM FileTree) Settings) (tree : FileTree) : Prop :=
  (∃ settings, onTree command tree = (.ok settings, tree)) ∨
    ∃ causes, onTree command tree = (.error (settingsTrouble causes), tree)

theorem loads_pure (settings : Settings) (tree : FileTree) : Loads (pure settings) tree :=
  .inl ⟨settings, rfl⟩

theorem loads_settingsFrom (path : String) (tree : FileTree) : Loads (settingsFrom path) tree := by
  have hread : onTree (monadLift (FileAccess.read path : StateM FileTree _)) tree =
      (.ok (tree.read path), tree) := rfl
  unfold Loads settingsFrom
  simp only [onTree_bind, hread]
  cases tree.read path with
  | error problem => exact .inr ⟨_, rfl⟩
  | ok text =>
    dsimp only
    cases Settings.ofToml text with
    | ok settings => exact .inl ⟨settings, rfl⟩
    | error failure => exact .inr ⟨_, rfl⟩

theorem loads_userSettings (env : Environment) (tree : FileTree) : Loads (userSettings env) tree := by
  unfold userSettings
  cases env.settingsPath? with
  | none => exact loads_pure {} tree
  | some path =>
    have hfile : onTree (monadLift (FileAccess.isFile path : StateM FileTree _)) tree =
        (.ok ((FileAccess.isFile path : StateM FileTree _).run tree).1, tree) := rfl
    have hloads := loads_settingsFrom path tree
    unfold Loads at hloads ⊢
    simp only [onTree_bind, hfile]
    split
    · exact hloads
    · exact loads_pure {} tree

theorem loads_loadSettings (env : Environment) (path protocolVersion : Option String) (tree : FileTree) :
    Loads (loadSettings env path protocolVersion) tree := by
  -- the binding of the settings is copied into both branches, so each is followed on its own
  unfold loadSettings
  cases path with
  | some path =>
    rcases loads_settingsFrom path tree with ⟨settings, h⟩ | ⟨causes, h⟩
    · exact .inl ⟨_, by simp only [onTree_bind, h]; rfl⟩
    · exact .inr ⟨causes, by simp only [onTree_bind, h]⟩
  | none =>
    rcases loads_userSettings env tree with ⟨settings, h⟩ | ⟨causes, h⟩
    · exact .inl ⟨_, by simp only [onTree_bind, h]; rfl⟩
    · exact .inr ⟨causes, by simp only [onTree_bind, h]⟩

theorem onTree_projectOf {server : Server} {settings : Settings} {project : Project}
    (h : server.generate settings = .ok project) (tree : FileTree) :
    onTree (projectOf server settings) tree = (.ok project, tree) := by
  -- The definition is opened before it is applied: to compare it with its body for this server, all the
  -- templates would be read.
  have hopen : @projectOf = @projectOf := rfl
  conv at hopen => rhs; delta projectOf
  rw [hopen]
  beta_reduce
  generalize server.generate settings = result at h ⊢
  subst h
  rfl

end Scaffold.Command
