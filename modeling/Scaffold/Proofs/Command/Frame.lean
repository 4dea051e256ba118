import Scaffold.Pattern.Estimate
import Scaffold.Proofs.Command.Load
import Scaffold.Proofs.Command.Write
import Scaffold.Proofs.Files.Rooted
import Scaffold.Proofs.Text.Slug

namespace Scaffold

theorem Language.isName_of_mem_projectPaths (l : Language) : ∀ path ∈ l.projectPaths, Path.IsName path := by
  cases l <;> decide

/-- The directory that the project of a server is written into. -/
def GenerateOptions.directoryFor (options : GenerateOptions) (server : Server) : String :=
  options.output.getD (Text.slugOf server.name)

namespace Command

variable {env : Environment} {format : OutputFormat} {options : GenerateOptions} {server : Server}
  {settings : Settings} {project : Project} {tree before : FileTree}

/-- The run is refused: the description cannot be read, or is not accepted, there are no settings, or a file
is there that may not be written over. -/
inductive Refused : Except Trouble Outcome → Prop
  | unreadable (path : String) (problem : FileProblem) : Refused (.error (unreadable path problem))
  | invalidInput (outcome : Outcome) (h : outcome.status = .invalidInput) : Refused (.ok outcome)
  | unsettled (causes : List String) : Refused (.error (settingsTrouble causes))
  | taken (path : String) : Refused (.error (taken path))

theorem Refused.not_success {outcome : Outcome} (h : Refused (.ok outcome)) : outcome.status ≠ .success := by
  cases h with
  | invalidInput _ hstatus =>
    rw [hstatus]
    decide

/-- The last words of a run that is stopped while it writes: they give a cause, and the first character that
tells them from others is that of creating, writing or marking. -/
theorem Unwritten.words {trouble : Trouble} (h : Unwritten trouble) :
    trouble.causes ≠ [] ∧ trouble.message.toList[10]? ∈ [some 'c', some 'w', some 'm'] := by
  cases h <;> simp

/-- The run has all that it needs to write a project: the description of an accepted server, and settings. -/
structure Prepared [Pattern.SizeLimit] (env : Environment) (options : GenerateOptions) (before : FileTree)
    (server : Server) (settings : Settings) (project : Project) : Prop where
  described : ∃ text, before.read options.input = .ok text ∧ Server.ofText text = .ok server
  accepted : server.validate {} = .ok ()
  settled : onTree (loadSettings env options.settings options.protocolVersion) before = (.ok settings, before)
  generated : server.generate settings = .ok project

/-- The run as it ends once the project has been written, or could not be. -/
def finish (env : Environment) (format : OutputFormat) (options : GenerateOptions) (server : Server)
    (project : Project) : Except Trouble Unit × FileTree → Except Trouble Outcome × FileTree
  | (.ok _, after) =>
    let report := GenerationReport.ofProject server (options.directoryFor server) project
    (.ok { output := shown env format report.toJson }, after)
  | (.error trouble, after) => (.error trouble, after)

theorem onTree_generateValid
    (hload : onTree (loadSettings env options.settings options.protocolVersion) before =
      (.ok settings, before))
    (hproject : server.generate settings = .ok project) :
    onTree (generateValid env format options server) before =
      finish env format options server project
        (onTree (writeProject (options.directoryFor server) options.force project) before) := by
  rw [generateValid, onTree_bind_of_ok hload, onTree_bind_of_ok (onTree_projectOf hproject before), onTree_bind]
  unfold finish GenerateOptions.directoryFor
  obtain ⟨result, after⟩ :=
    onTree (writeProject (options.output.getD (Text.slugOf server.name)) options.force project) before
  cases result <;> rfl

/-- The server is the one that is described. -/
theorem Prepared.eq_of_read [Pattern.SizeLimit] (h : Prepared env options before server settings project)
    {text : String} {described : Server} (hread : before.read options.input = .ok text)
    (hparse : Server.ofText text = .ok described) : described = server := by
  obtain ⟨text', hread', hparse'⟩ := h.described
  obtain rfl : text = text' := Except.ok.inj (hread.symm.trans hread')
  exact Except.ok.inj (hparse.symm.trans hparse')

/-- With all that it needs, a run is a matter of writing. -/
theorem Prepared.onTree_run [Pattern.SizeLimit] (h : Prepared env options before server settings project)
    (format : OutputFormat) :
    onTree (Command.run env format (.generate options)) before =
      finish env format options server project
        (onTree (writeProject (options.directoryFor server) options.force project) before) := by
  obtain ⟨text, hread, hparse⟩ := h.described
  have hvalid := (valid_check_eq_true_iff {} server).mpr h.accepted
  have hrun : Command.run env format (.generate options) =
      (generateProject env format options : ExceptT Trouble (StateM FileTree) Outcome) := rfl
  rw [hrun, generateProject, onTree_withServer, hread]
  dsimp only
  rw [hparse]
  dsimp only
  rw [if_pos hvalid]
  exact onTree_generateValid h.settled h.generated

/-- A run is refused before it comes to writing, and leaves all files, or it has all that it needs. -/
theorem refused_or_prepared [Pattern.SizeLimit] (env : Environment) (format : OutputFormat)
    (options : GenerateOptions) (before : FileTree) :
    (∃ result, Refused result ∧
      onTree (Command.run env format (.generate options)) before = (result, before)) ∨
    ∃ server settings project, Prepared env options before server settings project := by
  have hrun : Command.run env format (.generate options) =
      (generateProject env format options : ExceptT Trouble (StateM FileTree) Outcome) := rfl
  rw [hrun, generateProject, onTree_withServer]
  cases hread : before.read options.input with
  | error problem => exact .inl ⟨_, .unreadable options.input problem, rfl⟩
  | ok text =>
    dsimp only
    cases hparse : Server.ofText text with
    | error failure => exact .inl ⟨_, .invalidInput (malformed options.input failure) rfl, rfl⟩
    | ok server =>
      dsimp only
      cases hvalid : (ValidationReport.check {} server).valid with
      | false => exact .inl ⟨_, .invalidInput _ rfl, rfl⟩
      | true =>
        rw [if_pos rfl]
        have haccepted := (valid_check_eq_true_iff {} server).mp hvalid
        rcases loads_loadSettings env options.settings options.protocolVersion before with
          ⟨settings, hload⟩ | ⟨causes, hload⟩
        · obtain ⟨requirements, readme, container, script, hproject⟩ := server.exists_generate_eq settings
          exact .inr ⟨server, settings, _, ⟨text, hread, hparse⟩, haccepted, hload, hproject⟩
        · refine .inl ⟨_, .unsettled causes, ?_⟩
          rw [generateValid, onTree_bind, hload]

theorem isName_of_mem_files (hproject : server.generate settings = .ok project) :
    ∀ file ∈ project.files, Path.IsName file.path := by
  intro file hfile
  apply server.language.isName_of_mem_projectPaths
  rw [← Server.paths_of_generate hproject]
  exact List.mem_map_of_mem hfile

/-- Writing the project of a server is refused because one of its files is there, or it delivers the project
or is stopped in the midst of that. -/
theorem writeProject_cases (hproject : server.generate settings = .ok project) (directory : String)
    (force : Bool) (before : FileTree) :
    (∃ path, onTree (writeProject directory force project) before = (.error (taken path), before)) ∨
    ((force = false → ∀ path ∈ targets directory project, before.entryAt? path = none) ∧
      ((∃ after, onTree (writeProject directory force project) before = (.ok (), after) ∧
          Delivered directory project.files before after) ∨
        ∃ trouble after, onTree (writeProject directory force project) before = (.error trouble, after) ∧
          Unwritten trouble)) := by
  have hnodup : (project.files.map (·.path)).Nodup :=
    Server.paths_of_generate hproject ▸ server.language.nodup_projectPaths
  have hnames := isName_of_mem_files hproject
  -- A run that is not forced looks at the targets first and then writes like one that is.
  have hforced : (∃ after, onTree (writeProject directory true project) before = (.ok (), after) ∧
        Delivered directory project.files before after) ∨
      ∃ trouble after, onTree (writeProject directory true project) before = (.error trouble, after) ∧
        Unwritten trouble := by
    cases hwrite : onTree (writeProject directory true project) before with
    | mk result after =>
      cases result with
      | ok u => exact .inl ⟨after, rfl, delivered_of_writeProject_true hnames hnodup hwrite⟩
      | error trouble => exact .inr ⟨trouble, after, rfl, unwritten_of_writeProject_true hwrite⟩
  cases force with
  | true => exact .inr ⟨fun h => (Bool.noConfusion h), hforced⟩
  | false =>
    by_cases hfree : ∀ path ∈ targets directory project, before.entryAt? path = none
    · rw [onTree_writeProject_false_of_free hfree]
      exact .inr ⟨fun _ => hfree, hforced⟩
    · push Not at hfree
      obtain ⟨path, hpath, hentry⟩ := hfree
      exact .inl (onTree_writeProject_false_of_taken hpath (Option.isSome_iff_ne_none.mpr hentry))

theorem targets_eq (hproject : server.generate settings = .ok project) (directory : String) :
    targets directory project = server.language.projectPaths.map (Path.join directory) := by
  rw [← Server.paths_of_generate hproject, List.map_map]
  rfl

/-- A run is refused and leaves all files, or it has all that it needs, and delivers the project or is stopped
in the midst of that. -/
theorem generate_cases [Pattern.SizeLimit] (env : Environment) (format : OutputFormat)
    (options : GenerateOptions) (before : FileTree) :
    let run := onTree (Command.run env format (.generate options)) before
    (Refused run.1 ∧ run.2 = before) ∨
    ∃ server settings project, Prepared env options before server settings project ∧
      (options.force = false →
        ∀ path ∈ targets (options.directoryFor server) project, before.entryAt? path = none) ∧
      ((∃ outcome, run.1 = .ok outcome ∧ outcome.status = .success ∧
          Delivered (options.directoryFor server) project.files before run.2) ∨
        ∃ trouble, run.1 = .error trouble ∧ Unwritten trouble) := by
  intro run
  rcases refused_or_prepared env format options before with
    ⟨result, hrefused, hrun⟩ | ⟨server, settings, project, hprepared⟩
  · rw [show run = (result, before) from hrun]
    exact .inl ⟨hrefused, rfl⟩
  · have hrun := hprepared.onTree_run format
    rcases writeProject_cases hprepared.generated (options.directoryFor server) options.force before with
      ⟨path, hwrite⟩ | ⟨hfree, ⟨after, hwrite, hdelivered⟩ | ⟨trouble, after, hwrite, hunwritten⟩⟩
    · rw [hwrite] at hrun
      rw [show run = (.error (taken path), before) from hrun]
      exact .inl ⟨.taken path, rfl⟩
    · rw [hwrite] at hrun
      refine .inr ⟨server, settings, project, hprepared, hfree, .inl ?_⟩
      rw [show run = finish env format options server project (.ok (), after) from hrun]
      exact ⟨_, rfl, rfl, hdelivered⟩
    · rw [hwrite] at hrun
      refine .inr ⟨server, settings, project, hprepared, hfree, .inr ?_⟩
      rw [show run = (.error trouble, after) from hrun]
      exact ⟨trouble, rfl, hunwritten⟩

/-- A run that has all that it needs succeeds where its directory can be made and no file is in its way. -/
theorem Prepared.succeeds [Pattern.SizeLimit] (h : Prepared env options before server settings project)
    (format : OutputFormat) {made : FileTree} (hfree : options.force = false →
      ∀ path ∈ targets (options.directoryFor server) project, before.entryAt? path = none)
    (hmake : before.makeDirectories (options.directoryFor server) = (.ok (), made))
    (hvacant : ∀ file ∈ project.files,
      made.find? (made.below (options.directoryFor server) file.path) ≠ some .directory) :
    ∃ outcome, (onTree (Command.run env format (.generate options)) before).1 = .ok outcome ∧
      outcome.status = .success := by
  obtain ⟨after, hforced⟩ := exists_writeProject_true (isName_of_mem_files h.generated) hmake hvacant
  have hwrite : onTree (writeProject (options.directoryFor server) options.force project) before =
      (.ok (), after) := by
    cases hforce : options.force with
    | true => exact hforced
    | false => rw [onTree_writeProject_false_of_free (hfree hforce), hforced]
  rw [h.onTree_run format, hwrite]
  exact ⟨_, rfl, rfl⟩

/-- A server that is accepted. -/
def plainServer : Server :=
  { name := "a", description := "b", language := .python, tools := [{ name := "c", description := "d" }] }

/-- Its description, beside a directory with nothing but the last file of its project. -/
def halfTaken : FileTree where
  entries := [
    (["a.json"], .file ("\x7b\"serverName\":\"a\",\"serverType\":\"python\",\"description\":\"b\"," ++
      "\"tools\":[\x7b\"name\":\"c\",\"description\":\"d\"\x7d]\x7d") false),
    (["out"], .directory), (["out", "install.sh"], .file "" true)]
  here := []

/-- The project is to be written into that directory. -/
def plainOptions : GenerateOptions := { input := "a.json", output := some "out" }

theorem exists_read_halfTaken :
    ∃ text, halfTaken.read "a.json" = .ok text ∧ Server.ofText text = .ok plainServer :=
  ⟨_, by rfl, by rfl⟩

theorem validate_plainServer : plainServer.validate {} = .ok () := by rfl

theorem straight_directoryFor (hstraight : ∀ output ∈ options.output, before.Straight output)
    (server : Server) : before.Straight (options.directoryFor server) := by
  unfold GenerateOptions.directoryFor
  cases houtput : options.output with
  | none => exact FileTree.straight_of_isName (Text.isName_slugOf server.name) before
  | some output => exact hstraight output houtput

/-- A run that is not forced keeps everything that was there, at whatever place it is, if the way to its
output is straight. A run without an output of its own makes a directory where it is. -/
theorem generate_keeps [Pattern.SizeLimit] (env : Environment) (format : OutputFormat)
    (hforce : options.force = false) (hrooted : before.Rooted)
    (hstraight : ∀ output ∈ options.output, before.Straight output) {outcome : Outcome}
    (houtcome : (onTree (Command.run env format (.generate options)) before).1 = .ok outcome) {place : Place}
    {entry : Entry} (hentry : before.find? place = some entry) :
    (onTree (Command.run env format (.generate options)) before).2.find? place = some entry := by
  rcases generate_cases env format options before with
    ⟨-, hafter⟩ | ⟨server, settings, project, hprepared, hfree, hend⟩
  · rw [hafter]
    exact hentry
  · rcases hend with ⟨-, -, -, hdelivered⟩ | ⟨trouble, htrouble, -⟩
    · refine hdelivered.kept (fun file hfile => ?_) hentry
      -- What has been looked for by its path has been looked for at its place.
      rw [← FileTree.entryAt?_join hrooted (straight_directoryFor hstraight server)
        (isName_of_mem_files hprepared.generated file hfile)]
      exact hfree hforce _ (List.mem_map_of_mem hfile)
    · cases houtcome.symm.trans htrouble

/-- The same files, but the one that is there may not be run. -/
def unmarked : FileTree := halfTaken.put ["out", "install.sh"] (.file "" false)

/-- The same directory by way of one that is not there. -/
def detour : GenerateOptions := { plainOptions with output := some "x/../out" }

/-- The detour leads past the check: the files are looked for behind a directory that is not there, and
written once it has been made. So a run that is not forced writes over a file. -/
theorem generate_overwrites_detour :
    detour.force = false ∧ unmarked.Rooted ∧
      ∃ outcome, (onTree (Command.run {} .json (.generate detour)) unmarked).1 = .ok outcome ∧
        outcome.status = .success ∧
        unmarked.find? ["out", "install.sh"] = some (.file "" false) ∧
        (onTree (Command.run {} .json (.generate detour)) unmarked).2.find? ["out", "install.sh"] ≠
          some (.file "" false) := by
  obtain ⟨text, hread, hparse⟩ := exists_read_halfTaken
  obtain ⟨requirements, readme, container, script, hproject⟩ := plainServer.exists_generate_eq {}
  have hprepared : Prepared {} detour unmarked plainServer {} _ :=
    ⟨⟨text, hread, hparse⟩, validate_plainServer, rfl, hproject⟩
  have hpaths := Server.paths_of_generate hproject
  have hfree : ∀ path ∈ plainServer.language.projectPaths.map (Path.join "x/../out"),
      unmarked.entryAt? path = none := by decide
  rw [← targets_eq hproject] at hfree
  have hmake : unmarked.makeDirectories "x/../out" = (.ok (), unmarked.put ["x"] .directory) := by rfl
  have hvacant : ∀ path ∈ plainServer.language.projectPaths,
      (unmarked.put ["x"] .directory).find? ((unmarked.put ["x"] .directory).below "x/../out" path) ≠
        some .directory := by decide
  obtain ⟨outcome, houtcome, hsuccess⟩ := hprepared.succeeds .json (fun _ => hfree) hmake
    fun file hfile => hvacant file.path (hpaths ▸ List.mem_map_of_mem hfile)
  refine ⟨rfl, FileTree.rooted_of_entries (by decide), outcome, houtcome, hsuccess, by rfl, fun hkept => ?_⟩
  rcases generate_cases {} .json detour unmarked with
    ⟨hrefused, -⟩ | ⟨server, settings, project, hready, -, ⟨-, -, -, hdelivered⟩ | ⟨trouble, htrouble, -⟩⟩
  · exact absurd hsuccess (Refused.not_success (houtcome ▸ hrefused))
  · -- The script is one of the files that have been written, and such a file may be run.
    obtain rfl : plainServer = server := hready.eq_of_read hread hparse
    obtain ⟨file, hfile, hpath⟩ := List.mem_map.mp
      (Server.paths_of_generate hready.generated ▸
        (by decide : "install.sh" ∈ plainServer.language.projectPaths))
    have hwritten := hdelivered.written file hfile
    have hbelow : unmarked.below (detour.directoryFor plainServer) file.path = ["out", "install.sh"] := by
      rw [hpath]
      rfl
    have hscript : file.isExecutable = true := by
      unfold ProjectFile.isExecutable
      rw [hpath]
      rfl
    rw [hbelow, hkept, hscript, Bool.true_or] at hwritten
    simp at hwritten
  · cases houtcome.symm.trans htrouble

end Command

end Scaffold
