import Scaffold.Proofs.Project.Templates

namespace Scaffold

open Project

/-- The paths of the files of a project, in order. -/
def Language.projectPaths : Language → List String
  | python => ["server.py", "requirements.txt", "README.md", "Dockerfile", "install.sh"]
  | typeScript =>
    ["server.ts", "package.json", "tsconfig.json", "README.md", "Dockerfile", "install.sh"]

theorem Language.nodup_projectPaths (l : Language) : l.projectPaths.Nodup := by
  cases l <;> decide

/-- Files whose paths differ are found by their paths. -/
theorem Project.find?_path {project : Project} (h : (project.files.map (·.path)).Nodup)
    {file : ProjectFile} (hf : file ∈ project.files) : project.find? file.path = some file := by
  obtain ⟨files⟩ := project
  simp only [find?] at h hf ⊢
  induction files with
  | nil => cases hf
  | cons first rest ih =>
    obtain ⟨hnew, hnodup⟩ := List.nodup_cons.mp h
    rcases List.mem_cons.mp hf with rfl | hf
    · simp
    · have hne : first.path ≠ file.path := by
        intro heq
        apply hnew
        dsimp only
        rw [heq]
        exact List.mem_map_of_mem hf
      simpa [hne] using ih hnodup hf

namespace Server

/-- The files of a project by which the package manager knows what the server needs. -/
def manifests (s : Server) (settings : Settings) (requirements : String) : List ProjectFile :=
  match s.language with
  | .python => [⟨"requirements.txt", requirements⟩]
  | .typeScript => [
      ⟨"package.json", packageManifest s.name s.description settings⟩,
      ⟨"tsconfig.json", compilerManifest s.language.sourceFile⟩]

/-- The project of a server with these texts in its files. -/
def bundle (s : Server) (settings : Settings) (requirements readme container script : String) : Project :=
  ⟨⟨s.language.sourceFile, s.emit settings⟩ :: s.manifests settings requirements ++
    [⟨"README.md", readme⟩, ⟨"Dockerfile", container⟩, ⟨"install.sh", script⟩]⟩

theorem paths_bundle (s : Server) (settings : Settings) (requirements readme container script : String) :
    (s.bundle settings requirements readme container script).files.map (·.path) =
      s.language.projectPaths := by
  unfold bundle manifests
  cases s.language <;> rfl

/-- The project of a server holds the texts of its templates. -/
theorem generate_eq {s : Server} {settings : Settings} {requirements readme container script : String}
    (hrequirements : textOf? requirementsTemplate (s.toModule.context settings) = some requirements)
    (hreadme : textOf? readmeTemplate (s.toModule.context settings) = some readme)
    (hcontainer : textOf? (containerTemplate s.language) (s.toModule.context settings) = some container)
    (hscript : textOf? (scriptTemplate s.language) (s.toModule.context settings) = some script) :
    s.generate settings = .ok (s.bundle settings requirements readme container script) := by
  obtain ⟨library, hlibrary, hrender⟩ := exists_library
  have hrendered {path name : String} {template : List Char} {text : String}
      (he : (name, template) ∈ templates)
      (htext : textOf? template (s.toModule.context settings) = some text) :
      rendered library (s.toModule.context settings) path name = .ok ⟨path, text⟩ := by
    rw [rendered, hrender _ _ he _ htext]
  -- Which files there are depends on the language; each of them is rendered from its template.
  have hmanifests : requirementFiles library s settings (s.toModule.context settings) =
      .ok (s.manifests settings requirements) := by
    unfold requirementFiles manifests
    cases s.language with
    | python =>
      dsimp only
      rw [hrendered (by simp [templates]) hrequirements]
      rfl
    | typeScript => rfl
  have hreadme' : rendered library (s.toModule.context settings) "README.md" "readme" =
      .ok ⟨"README.md", readme⟩ := hrendered (by simp [templates]) hreadme
  have hcontainer' : rendered library (s.toModule.context settings) "Dockerfile"
      ("dockerfile/" ++ s.language.name) = .ok ⟨"Dockerfile", container⟩ := by
    refine hrendered ?_ hcontainer
    cases s.language <;> simp [templates, containerTemplate, Language.name]
  have hscript' : rendered library (s.toModule.context settings) "install.sh"
      ("install/" ++ s.language.name) = .ok ⟨"install.sh", script⟩ := by
    refine hrendered ?_ hscript
    cases s.language <;> simp [templates, scriptTemplate, Language.name]
  rw [generate, hlibrary]
  change ofServer library s settings = _
  simp only [ofServer, hmanifests, hreadme', hcontainer', hscript']
  rfl

/-- Every server has a project with its readme. -/
theorem exists_generate_of_readme {s : Server} {settings : Settings} {readme : String}
    (hreadme : textOf? readmeTemplate (s.toModule.context settings) = some readme) :
    ∃ requirements container script,
      s.generate settings = .ok (s.bundle settings requirements readme container script) := by
  have htext (name : String) (template : List Char) (he : (name, template) ∈ templates) :
      ∃ text, textOf? template (s.toModule.context settings) = some text :=
    Option.isSome_iff_exists.mp (isSome_textOf? (s.toModule.context settings) _ he)
  obtain ⟨requirements, hrequirements⟩ := htext "requirements" requirementsTemplate (by simp [templates])
  obtain ⟨container, hcontainer⟩ := htext ("dockerfile/" ++ s.language.name)
    (containerTemplate s.language)
    (by cases s.language <;> simp [templates, containerTemplate, Language.name])
  obtain ⟨script, hscript⟩ := htext ("install/" ++ s.language.name) (scriptTemplate s.language)
    (by cases s.language <;> simp [templates, scriptTemplate, Language.name])
  exact ⟨requirements, container, script, generate_eq hrequirements hreadme hcontainer hscript⟩

theorem exists_generate_eq (s : Server) (settings : Settings) :
    ∃ requirements readme container script,
      s.generate settings = .ok (s.bundle settings requirements readme container script) := by
  have hmem : ("readme", readmeTemplate) ∈ templates := by simp [templates]
  obtain ⟨readme, hreadme⟩ :=
    Option.isSome_iff_exists.mp (isSome_textOf? (s.toModule.context settings) _ hmem)
  obtain ⟨requirements, container, script, h⟩ := exists_generate_of_readme hreadme
  exact ⟨requirements, readme, container, script, h⟩

/-- The paths of a project are those that are documented for the language of the server. -/
theorem paths_of_generate {s : Server} {settings : Settings} {project : Project}
    (h : s.generate settings = .ok project) : project.files.map (·.path) = s.language.projectPaths := by
  obtain ⟨requirements, readme, container, script, hgenerate⟩ := s.exists_generate_eq settings
  obtain rfl : project = s.bundle settings requirements readme container script :=
    Except.ok.inj (h.symm.trans hgenerate)
  exact s.paths_bundle settings requirements readme container script

/-- Every server has a project, whether it is accepted or not: no template misses a value that it shows, and
the files are those that are documented for the language, each found by its path. The first one is the
source of the server. -/
theorem exists_generate_wellFormed (s : Server) (settings : Settings) :
    (∃ library, Project.library = .ok library ∧ ∀ e ∈ templates, ∃ text,
      library.render e.1 (s.toModule.context settings).toJson = .ok text) ∧
    ∃ project, s.generate settings = .ok project ∧
      project.files.map (·.path) = s.language.projectPaths ∧
      (project.files.map (·.path)).Nodup ∧
      (∀ file ∈ project.files, project.find? file.path = some file) ∧
      project.primary? = some ⟨s.language.sourceFile, s.emit settings⟩ := by
  constructor
  · have htexts := isSome_textOf? (s.toModule.context settings)
    obtain ⟨library, hlibrary, hrender⟩ := exists_library
    refine ⟨library, hlibrary, fun e he => ?_⟩
    obtain ⟨text, htext⟩ := Option.isSome_iff_exists.mp (htexts e he)
    exact ⟨text, hrender _ e he text htext⟩
  · obtain ⟨requirements, readme, container, script, hgenerate⟩ := s.exists_generate_eq settings
    have hpaths := paths_of_generate hgenerate
    have hnodup := hpaths ▸ s.language.nodup_projectPaths
    exact ⟨_, hgenerate, hpaths, hnodup, fun file hfile => find?_path hnodup hfile, rfl⟩

end Server

end Scaffold
