import Scaffold.Proofs.Command.OnTree
import Scaffold.Proofs.Files.Names

namespace Scaffold.Command

open FileTree

variable {directory : String} {tree after : FileTree}

/-- What stops a command that may not write over what is under a path. -/
def taken (path : String) : Trouble := { message := path ++ " already exists (use --force to overwrite)" }

/-- The first of the paths that leads to something stops the command. -/
theorem onTree_refuseTaken (paths : List String) (tree : FileTree) :
    onTree (refuseTaken paths) tree =
      match paths.find? fun path => (tree.entryAt? path).isSome with
      | none => (.ok (), tree)
      | some path => (.error (taken path), tree) := by
  induction paths with
  | nil => rfl
  | cons path rest ih =>
    have hlook : onTree (monadLift (FileAccess.exists? path : StateM FileTree Bool)) tree =
        (.ok (tree.entryAt? path).isSome, tree) := rfl
    rw [refuseTaken, onTree_bind, hlook, List.find?_cons]
    cases (tree.entryAt? path).isSome with
    | true => rfl
    | false => exact ih

/-- What stops a command in the midst of writing: an answer of the file system. -/
inductive Unwritten : Trouble → Prop
  | create (directory problem : String) :
    Unwritten { message := "failed to create " ++ directory, causes := [problem] }
  | write (path problem : String) :
    Unwritten { message := "failed to write " ++ path, causes := [problem] }
  | mark (path problem : String) :
    Unwritten { message := "failed to mark " ++ path ++ " executable", causes := [problem] }

theorem onTree_orTrouble_attempt_eq_ok_iff {message : String}
    {change : FileTree → Except FileProblem FileTree} :
    onTree (orTrouble message (attempt change)) tree = (.ok (), after) ↔ change tree = .ok after := by
  have hrun : (attempt change).run tree = attempt change tree := rfl
  rw [onTree_orTrouble_eq_ok_iff, hrun, attempt]
  cases change tree with
  | ok changed =>
    constructor <;> intro h <;> cases h <;> rfl
  | error e =>
    constructor
    · intro h
      cases congrArg Prod.fst h
    · intro h
      cases h

section

variable {file : ProjectFile}

theorem wrote_of_writeFile (hname : Path.IsName file.path)
    (h : onTree (writeFile directory file) tree = (.ok (), after)) :
    Wrote (tree.below directory file.path) file.content
      (file.isExecutable || tree.isExecutable (tree.below directory file.path)) tree after := by
  obtain ⟨⟨⟩, middle, hwrite, h⟩ := onTree_bind_eq_ok_iff.mp h
  have hwrote := wrote_of_write hname (onTree_orTrouble_attempt_eq_ok_iff.mp hwrite)
  cases hexecutable : file.isExecutable with
  | false =>
    rw [hexecutable] at h
    cases h
    exact hwrote
  | true =>
    rw [hexecutable] at h
    have hmark := onTree_orTrouble_attempt_eq_ok_iff.mp h
    -- The mark is put at the place that has just been written.
    have hbelow := below_congr hwrote.here directory file.path
    have hmarked := wrote_of_markExecutable hname (hbelow ▸ hwrote.file) hmark
    rw [hbelow] at hmarked
    exact hwrote.trans hmarked

/-- A file can be written into a directory that is there. -/
theorem exists_writeFile (hname : Path.IsName file.path)
    (hway : ∀ p ∈ tree.directoriesOf directory, tree.find? p = some .directory)
    (hvacant : tree.find? (tree.below directory file.path) ≠ some .directory) :
    ∃ after, onTree (writeFile directory file) tree = (.ok (), after) := by
  obtain ⟨middle, hwrite⟩ := exists_write hname hway hvacant file.content
  have hwrote := wrote_of_write hname hwrite
  have hwritten : onTree (orTrouble ("failed to write " ++ Path.join directory file.path)
      (FileAccess.write (Path.join directory file.path) file.content : StateM FileTree _)) tree =
      (.ok (), middle) := onTree_orTrouble_attempt_eq_ok_iff.mpr hwrite
  cases hexecutable : file.isExecutable with
  | false =>
    refine ⟨middle, onTree_bind_eq_ok_iff.mpr ⟨(), middle, hwritten, ?_⟩⟩
    rw [hexecutable]
    rfl
  | true =>
    have hfile := hwrote.file
    rw [← below_congr hwrote.here] at hfile
    obtain ⟨after, hmark⟩ := exists_markExecutable hname (hwrote.way hway) hfile
    refine ⟨after, onTree_bind_eq_ok_iff.mpr ⟨(), middle, hwritten, ?_⟩⟩
    rw [hexecutable]
    exact onTree_orTrouble_attempt_eq_ok_iff.mpr hmark

theorem unwritten_of_writeFile {trouble : Trouble}
    (h : onTree (writeFile directory file) tree = (.error trouble, after)) : Unwritten trouble := by
  rcases onTree_bind_eq_error_iff.mp h with h | ⟨⟨⟩, middle, -, h⟩
  · obtain ⟨problem, rfl⟩ := exists_of_onTree_orTrouble_eq_error h
    exact .write _ problem
  · cases hexecutable : file.isExecutable with
    | false =>
      rw [hexecutable] at h
      cases h
    | true =>
      rw [hexecutable] at h
      obtain ⟨problem, rfl⟩ := exists_of_onTree_orTrouble_eq_error h
      exact .mark _ problem

end

/-- One tree comes of another by writing files below a directory. -/
structure WroteAll (directory : String) (files : List ProjectFile) (before after : FileTree) : Prop where
  here : after.here = before.here
  file : ∀ file ∈ files, after.find? (before.below directory file.path) =
    some (.file file.content (file.isExecutable || before.isExecutable (before.below directory file.path)))
  vacant : ∀ file ∈ files, before.find? (before.below directory file.path) ≠ some .directory
  others : ∀ p, (∀ file ∈ files, p ≠ before.below directory file.path) → after.find? p = before.find? p

theorem WroteAll.nil (directory : String) (tree : FileTree) : WroteAll directory [] tree tree where
  here := rfl
  file _ hfile := absurd hfile List.not_mem_nil
  vacant _ hfile := absurd hfile List.not_mem_nil
  others _ _ := rfl

theorem WroteAll.cons {first : ProjectFile} {rest : List ProjectFile} {before middle after : FileTree}
    (hnew : ∀ file ∈ rest, file.path ≠ first.path)
    (hfirst : Wrote (before.below directory first.path) first.content
      (first.isExecutable || before.isExecutable (before.below directory first.path)) before middle)
    (hrest : WroteAll directory rest middle after) : WroteAll directory (first :: rest) before after := by
  have hbelow := below_congr hfirst.here directory
  have hne : ∀ file ∈ rest, before.below directory file.path ≠ before.below directory first.path :=
    fun file hfile heq => hnew file hfile (below_inj heq)
  constructor
  · exact hrest.here.trans hfirst.here
  -- The later files are written elsewhere, so the first one stays as it was written.
  · intro file hfile
    rcases List.mem_cons.mp hfile with rfl | hfile
    · rw [hrest.others _ fun other hother => ?_, hfirst.file]
      rw [hbelow]
      exact (hne other hother).symm
    · have hwritten := hrest.file file hfile
      rw [hbelow] at hwritten
      rw [hwritten, isExecutable, hfirst.others _ (hne file hfile)]
      rfl
  · intro file hfile
    rcases List.mem_cons.mp hfile with rfl | hfile
    · exact hfirst.vacant
    · rw [← hfirst.others _ (hne file hfile), ← hbelow]
      exact hrest.vacant file hfile
  · intro p hp
    obtain ⟨hp, hothers⟩ := List.forall_mem_cons.mp hp
    rw [hrest.others p fun file hfile => hbelow _ ▸ hothers file hfile, hfirst.others p hp]

theorem wroteAll_of_writeFiles {files : List ProjectFile} (hnames : ∀ file ∈ files, Path.IsName file.path)
    (hnodup : (files.map (·.path)).Nodup)
    (h : onTree (writeFiles directory files) tree = (.ok (), after)) :
    WroteAll directory files tree after := by
  induction files generalizing tree with
  | nil =>
    cases h
    exact WroteAll.nil directory _
  | cons first rest ih =>
    obtain ⟨hname, hnames⟩ := List.forall_mem_cons.mp hnames
    obtain ⟨hnew, hnodup⟩ := List.nodup_cons.mp hnodup
    obtain ⟨⟨⟩, middle, hfirst, hrest⟩ := onTree_bind_eq_ok_iff.mp h
    -- The other files are written into the tree that the first one leaves.
    refine WroteAll.cons ?_ (wrote_of_writeFile hname hfirst) (ih hnames hnodup hrest)
    intro file hfile heq
    apply hnew
    dsimp only
    rw [← heq]
    exact List.mem_map_of_mem hfile

theorem exists_writeFiles {files : List ProjectFile} (hnames : ∀ file ∈ files, Path.IsName file.path)
    (hway : ∀ p ∈ tree.directoriesOf directory, tree.find? p = some .directory)
    (hvacant : ∀ file ∈ files, tree.find? (tree.below directory file.path) ≠ some .directory) :
    ∃ after, onTree (writeFiles directory files) tree = (.ok (), after) := by
  induction files generalizing tree with
  | nil => exact ⟨tree, rfl⟩
  | cons first rest ih =>
    obtain ⟨hname, hnames⟩ := List.forall_mem_cons.mp hnames
    obtain ⟨hfirst, hrest⟩ := List.forall_mem_cons.mp hvacant
    obtain ⟨middle, hwrite⟩ := exists_writeFile hname hway hfirst
    have hwrote := wrote_of_writeFile hname hwrite
    have hvacant' : ∀ file ∈ rest, middle.find? (middle.below directory file.path) ≠ some .directory := by
      intro file hfile
      rw [below_congr hwrote.here]
      by_cases hplace : tree.below directory file.path = tree.below directory first.path
      · rw [hplace, hwrote.file]
        simp
      · rw [hwrote.others _ hplace]
        exact hrest file hfile
    obtain ⟨after, hafter⟩ := ih hnames (hwrote.way hway) hvacant'
    exact ⟨after, onTree_bind_eq_ok_iff.mpr ⟨(), middle, hwrite, hafter⟩⟩

theorem unwritten_of_writeFiles {files : List ProjectFile} {trouble : Trouble}
    (h : onTree (writeFiles directory files) tree = (.error trouble, after)) : Unwritten trouble := by
  induction files generalizing tree with
  | nil => cases h
  | cons first rest ih =>
    rcases onTree_bind_eq_error_iff.mp h with hfirst | ⟨⟨⟩, middle, -, hrest⟩
    · exact unwritten_of_writeFile hfirst
    · exact ih hrest

/-- One tree comes of another by writing files into a directory, which is made with those on the way to it.
Only directories stood in its way, the files hold what was written, and nothing else has changed. -/
structure Delivered (directory : String) (files : List ProjectFile) (before after : FileTree) : Prop where
  here : after.here = before.here
  directories : ∀ p ∈ before.directoriesOf directory, after.find? p = some .directory
  fresh : ∀ p ∈ before.directoriesOf directory, ∀ entry ∈ before.find? p, entry = .directory
  written : ∀ file ∈ files, after.find? (before.below directory file.path) =
    some (.file file.content (file.isExecutable || before.isExecutable (before.below directory file.path)))
  content : ∀ file ∈ files, after.read (Path.join directory file.path) = .ok file.content
  others : ∀ p ∉ before.directoriesOf directory,
    (∀ file ∈ files, p ≠ before.below directory file.path) → after.find? p = before.find? p

theorem Delivered.of_made {files : List ProjectFile} {before middle after : FileTree}
    (hnames : ∀ file ∈ files, Path.IsName file.path)
    (hmade : Made (before.directoriesOf directory) before middle)
    (hwrote : WroteAll directory files middle after) : Delivered directory files before after := by
  have hbelow := below_congr hmade.here directory
  -- A file is never written where a directory is, so the directories that have been made stay.
  have hapart : ∀ p ∈ before.directoriesOf directory, ∀ file ∈ files,
      p ≠ middle.below directory file.path := by
    rintro p hp file hfile rfl
    exact hwrote.vacant file hfile (hmade.directory _ hp)
  have hdirectory : ∀ p ∈ before.directoriesOf directory, after.find? p = some .directory := by
    intro p hp
    rw [hwrote.others p (hapart p hp), hmade.directory p hp]
  have hfile : ∀ file ∈ files, after.find? (before.below directory file.path) =
      some (.file file.content
        (file.isExecutable || before.isExecutable (before.below directory file.path))) := by
    intro file hfile
    have hwritten := hwrote.file file hfile
    rw [hbelow] at hwritten
    rw [hwritten, isExecutable, hmade.others _ fun hp => hapart _ hp file hfile (hbelow _).symm]
    rfl
  have hhere := hwrote.here.trans hmade.here
  constructor
  · exact hhere
  · exact hdirectory
  · exact hmade.fresh
  · exact hfile
  · intro file hmem
    apply read_join (hnames file hmem)
    · rw [directoriesOf_congr hhere]
      exact hdirectory
    · rw [below_congr hhere]
      exact hfile file hmem
  · intro p hp hothers
    rw [hwrote.others p fun file hfile => hbelow _ ▸ hothers file hfile, hmade.others p hp]

/-- What was there stays as it was, if no file was there in the place of one that is written. -/
theorem Delivered.kept {files : List ProjectFile} {before after : FileTree}
    (h : Delivered directory files before after)
    (hvacant : ∀ file ∈ files, before.find? (before.below directory file.path) = none) {place : Place}
    {entry : Entry} (hentry : before.find? place = some entry) : after.find? place = some entry := by
  by_cases hplace : place ∈ before.directoriesOf directory
  · rw [h.directories place hplace, h.fresh place hplace entry hentry]
  · rw [h.others place hplace, hentry]
    rintro file hfile rfl
    rw [hvacant file hfile] at hentry
    cases hentry

section

variable {force : Bool} {project : Project}

/-- The paths of the files of a project in a directory. -/
def targets (directory : String) (project : Project) : List String :=
  project.files.map fun file => Path.join directory file.path

/-- What is not forced is looked for first, and written as if it were forced. -/
theorem writeProject_false (directory : String) (project : Project) :
    (writeProject directory false project : ExceptT Trouble (StateM FileTree) Unit) =
      refuseTaken (targets directory project) >>= fun _ => writeProject directory true project := rfl

theorem delivered_of_writeProject_true (hnames : ∀ file ∈ project.files, Path.IsName file.path)
    (hnodup : (project.files.map (·.path)).Nodup)
    (h : onTree (writeProject directory true project) tree = (.ok (), after)) :
    Delivered directory project.files tree after := by
  obtain ⟨⟨⟩, middle, hmake, hwrite⟩ := onTree_bind_eq_ok_iff.mp h
  have hmade := made_of_makeDirectories (onTree_orTrouble_eq_ok_iff.mp hmake)
  exact Delivered.of_made hnames hmade (wroteAll_of_writeFiles hnames hnodup hwrite)

/-- A project can be written into a directory that can be made. -/
theorem exists_writeProject_true {made : FileTree} (hnames : ∀ file ∈ project.files, Path.IsName file.path)
    (hmake : tree.makeDirectories directory = (.ok (), made))
    (hvacant : ∀ file ∈ project.files, made.find? (made.below directory file.path) ≠ some .directory) :
    ∃ after, onTree (writeProject directory true project) tree = (.ok (), after) := by
  have hmade := made_of_makeDirectories hmake
  obtain ⟨after, hwrite⟩ := exists_writeFiles hnames
    (directoriesOf_congr hmade.here directory ▸ hmade.directory) hvacant
  exact ⟨after, onTree_bind_eq_ok_iff.mpr ⟨(), made, onTree_orTrouble_eq_ok_iff.mpr hmake, hwrite⟩⟩

theorem unwritten_of_writeProject_true {trouble : Trouble}
    (h : onTree (writeProject directory true project) tree = (.error trouble, after)) : Unwritten trouble := by
  rcases onTree_bind_eq_error_iff.mp h with hmake | ⟨⟨⟩, middle, -, hwrite⟩
  · obtain ⟨problem, rfl⟩ := exists_of_onTree_orTrouble_eq_error hmake
    exact .create directory problem
  · exact unwritten_of_writeFiles hwrite

/-- A project is refused as soon as one of its files is there. -/
theorem onTree_writeProject_false_of_taken {path : String} (hpath : path ∈ targets directory project)
    (hentry : (tree.entryAt? path).isSome) :
    ∃ first, onTree (writeProject directory false project) tree = (.error (taken first), tree) := by
  rw [writeProject_false, onTree_bind, onTree_refuseTaken]
  cases hfind : (targets directory project).find? fun path => (tree.entryAt? path).isSome with
  | none => exact absurd hentry (List.find?_eq_none.mp hfind path hpath)
  | some first => exact ⟨first, rfl⟩

/-- A project that is not refused is written as if it were forced. -/
theorem onTree_writeProject_false_of_free
    (hfree : ∀ path ∈ targets directory project, tree.entryAt? path = none) :
    onTree (writeProject directory false project) tree = onTree (writeProject directory true project) tree := by
  have hfind : ((targets directory project).find? fun path => (tree.entryAt? path).isSome) = none := by
    apply List.find?_eq_none.mpr
    intro path hpath
    rw [hfree path hpath]
    decide
  rw [writeProject_false, onTree_bind, onTree_refuseTaken, hfind]

end

end Scaffold.Command
