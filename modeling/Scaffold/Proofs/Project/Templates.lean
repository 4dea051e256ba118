import Scaffold.Project.Generate
import Scaffold.Proofs.Template.Library
import Scaffold.Proofs.Template.Schema

namespace Scaffold.Project

open Template

/-- Members that may be shown. -/
def shownMembers (names : List String) : List (String × Schema) := names.map fun name => (name, .leaf)

/-- What is listed of a parameter. -/
def paramSchema : Schema := .record (shownMembers ["name", "type", "description"])

/-- What is listed of a tool. -/
def toolSchema : Schema :=
  .record (shownMembers ["name", "description", "has_params"] ++ [("params", .list paramSchema)])

/-- What language and settings decide, whatever the server is. -/
def settledNames : List String := [
  "language_name", "is_python", "source_file", "protocol_version", "sdk_package", "sdk_version",
  "python_sdk_version", "pydantic_version_spec", "python_version", "node_version"]

/-- What is listed of every server in a language under some settings. -/
def settledSchema : Schema := .record (shownMembers settledNames)

/-- What is listed of a project. -/
def contextSchema : Schema :=
  .record (shownMembers ("server_name" :: "slug" :: "description" :: "has_tools" :: settledNames) ++
    [("tools", .list toolSchema)])

theorem relatesMembers_shownMembers {names : List String} {xs ys : List (String × Json)}
    (h : ∀ name ∈ names, ∃ v, xs.lookup name = some v ∧ ys.lookup name = some v) :
    RelatesMembers (shownMembers names) xs ys := by
  induction names with
  | nil => trivial
  | cons name rest ih =>
    obtain ⟨hname, hrest⟩ := List.forall_mem_cons.mp h
    obtain ⟨v, hx, hy⟩ := hname
    exact ⟨⟨v, v, hx, hy, rfl⟩, ih hrest⟩

theorem relatesMembers_append {before behind : List (String × Schema)} {xs ys : List (String × Json)}
    (hbefore : RelatesMembers before xs ys) (hbehind : RelatesMembers behind xs ys) :
    RelatesMembers (before ++ behind) xs ys := by
  induction before with
  | nil => exact hbehind
  | cons member rest ih => exact ⟨hbefore.1, ih hbefore.2⟩

/-- The shown members of an object are those of the object itself. -/
theorem relatesMembers_self {names : List String} {members : List (String × Json)}
    (h : (names.all fun name => (members.lookup name).isSome) = true) :
    RelatesMembers (shownMembers names) members members := by
  apply relatesMembers_shownMembers
  intro name hname
  obtain ⟨v, hv⟩ := Option.isSome_iff_exists.mp (List.all_eq_true.mp h name hname)
  exact ⟨v, hv, hv⟩

theorem relates_param (p : ParamSummary) : paramSchema.Relates p.toJson p.toJson :=
  relatesMembers_self rfl

theorem relates_tool (t : ToolSummary) : toolSchema.Relates t.toJson t.toJson := by
  refine relatesMembers_append (relatesMembers_self rfl) ⟨⟨_, _, rfl, rfl, ?_⟩, trivial⟩
  refine List.forall₂_same.mpr (List.forall_mem_map.mpr ?_)
  exact fun p _ => relates_param p

/-- The context of a project has all that is listed. -/
theorem relates_context (c : ProjectContext) : contextSchema.Relates c.toJson c.toJson := by
  refine relatesMembers_append (relatesMembers_self rfl) ⟨⟨_, _, rfl, rfl, ?_⟩, trivial⟩
  refine List.forall₂_same.mpr (List.forall_mem_map.mpr ?_)
  exact fun t _ => relates_tool t

/-- The contexts of two projects in one language under the same settings agree in what these decide. -/
theorem relates_settled {c d : ProjectContext} (hl : c.language = d.language)
    (hs : c.settings = d.settings) : settledSchema.Relates c.toJson d.toJson := by
  obtain ⟨_, _, _, l, s, _⟩ := c
  obtain ⟨_, _, _, l', s', _⟩ := d
  cases hl
  cases hs
  apply relatesMembers_shownMembers
  simp only [settledNames, List.forall_mem_cons, List.not_mem_nil, false_imp_iff, implies_true, and_true]
  exact ⟨⟨_, rfl, rfl⟩, ⟨_, rfl, rfl⟩, ⟨_, rfl, rfl⟩, ⟨_, rfl, rfl⟩, ⟨_, rfl, rfl⟩, ⟨_, rfl, rfl⟩,
    ⟨_, rfl, rfl⟩, ⟨_, rfl, rfl⟩, ⟨_, rfl, rfl⟩, ⟨_, rfl, rfl⟩⟩

/-- The lines of a template as they are read. Evaluating a string into its characters is slow, so the
characters are named first. -/
theorem linesText_eq {lines : List String} {spelled : List (List Char)}
    (h : List.Forall₂ (fun line cs => line = String.ofList cs) lines spelled) :
    linesText lines = spelled.flatMap (· ++ ['\n']) := by
  induction h with
  | nil => rfl
  | cons hline _ ih =>
    simp only [linesText, List.flatMap_cons] at ih ⊢
    rw [ih, hline, String.toList_ofList]

/-- The text of a template for a project. -/
def textOf? (template : List Char) (c : ProjectContext) : Option String :=
  (parse? template).bind fun parts => render? parts c.toJson

/-- A template within a schema has the same text for projects that the schema relates. -/
theorem exists_textOf? {schema : Schema} {template : List Char} {c d : ProjectContext}
    (ht : (parse? template).any (partsWithin schema) = true)
    (h : schema.Relates c.toJson d.toJson) :
    ∃ text, textOf? template c = some text ∧ textOf? template d = some text := by
  obtain ⟨parts, hparts, hwithin⟩ := (Option.any_eq_true _ _).mp ht
  have hparts : parse? template = some parts := hparts
  simp only [textOf?, hparts, Option.bind_some]
  exact parts_together parts h hwithin

/-- The words of a script before the name of the server. -/
def scriptMark : String := "# Installs dependencies for "

/-- How a script begins, up to the name of the server. -/
def scriptHead : String := "#!/usr/bin/env sh\n" ++ scriptMark

/-- Whether parts begin like a script, name the server to the end of a line, and then ask for nothing but
what the schema lists. -/
def namesServerOnce (schema : Schema) : List Part → Bool
  | .text head :: .value path :: .text tail :: rest =>
    head == scriptHead && path == ⟨false, ["server_name"]⟩ && tail.toList.head? == some '\n' &&
      partsWithin schema rest
  | _ => false

/-- A script has the same text behind the name of the server for projects that the schema relates. -/
theorem exists_textOf?_script {schema : Schema} {template : List Char} {c d : ProjectContext}
    (ht : (parse? template).any (namesServerOnce schema) = true)
    (h : schema.Relates c.toJson d.toJson) :
    ∃ rest, textOf? template c = some (scriptHead ++ c.serverName ++ "\n" ++ rest) ∧
      textOf? template d = some (scriptHead ++ d.serverName ++ "\n" ++ rest) := by
  obtain ⟨parts, hparts, hnames⟩ := (Option.any_eq_true _ _).mp ht
  have hparts : parse? template = some parts := hparts
  unfold namesServerOnce at hnames
  split at hnames
  · next head path tail rest hparts =>
    simp only [Bool.and_eq_true, beq_iff_eq] at hnames
    obtain ⟨⟨⟨rfl, rfl⟩, htail⟩, hrest⟩ := hnames
    obtain ⟨behind, htail⟩ := List.head?_eq_some_iff.mp htail
    have htail : tail = "\n" ++ String.ofList behind := by
      apply String.toList_inj.mp
      simpa using htail
    obtain ⟨text, hc, hd⟩ := parts_together rest (a := ⟨c.toJson, []⟩) (b := ⟨d.toJson, []⟩) h hrest
    -- The first two parts are the same for both projects but for the name, and the rest renders alike.
    have htext (e : ProjectContext) (he : renderParts rest ⟨e.toJson, []⟩ = some text) :
        textOf? template e =
          some (scriptHead ++ e.serverName ++ "\n" ++ (String.ofList behind ++ text)) := by
      have hname : (⟨e.toJson, []⟩ : Scope).find ⟨false, ["server_name"]⟩ =
          .found (.string e.serverName) := rfl
      simp only [textOf?, hparts, Option.bind_some, render?, renderParts, renderPart, hname, shown, he,
        htail, bind, pure, String.append_assoc]
    exact ⟨_, htext c hc, htext d hd⟩
  · cases hnames

/-- The template of the container of a server. -/
def containerTemplate : Language → List Char
  | .python => pythonDockerfile
  | .typeScript => typeScriptDockerfile

/-- The template of the script that installs what a server needs. -/
def scriptTemplate : Language → List Char
  | .python => pythonInstall
  | .typeScript => typeScriptInstall

theorem within_readmeTemplate :
    (parse? readmeTemplate).any (partsWithin contextSchema) = true := by
  rw [readmeTemplate, linesText_eq (by repeat' constructor)]
  decide +kernel

theorem within_containerTemplate (l : Language) :
    (parse? (containerTemplate l)).any (partsWithin settledSchema) = true := by
  cases l with
  | python =>
    rw [containerTemplate, pythonDockerfile, linesText_eq (by repeat' constructor)]
    decide +kernel
  | typeScript =>
    rw [containerTemplate, typeScriptDockerfile, linesText_eq (by repeat' constructor)]
    decide +kernel

theorem within_requirementsTemplate :
    (parse? requirementsTemplate).any (partsWithin settledSchema) = true := by
  rw [requirementsTemplate, linesText_eq (by repeat' constructor)]
  decide +kernel

theorem namesServerOnce_scriptTemplate (l : Language) :
    (parse? (scriptTemplate l)).any (namesServerOnce settledSchema) = true := by
  cases l with
  | python =>
    rw [scriptTemplate, pythonInstall, linesText_eq (by repeat' constructor)]
    decide +kernel
  | typeScript =>
    rw [scriptTemplate, typeScriptInstall, linesText_eq (by repeat' constructor)]
    decide +kernel

/-- Every template has a text for every project. -/
theorem isSome_textOf? (c : ProjectContext) : ∀ e ∈ templates, (textOf? e.2 c).isSome = true := by
  have hsettled : settledSchema.Relates c.toJson c.toJson := relates_settled rfl rfl
  have hcontainer (l : Language) : (textOf? (containerTemplate l) c).isSome = true := by
    obtain ⟨_, h, -⟩ := exists_textOf? (within_containerTemplate l) hsettled
    exact Option.isSome_of_eq_some h
  have hscript (l : Language) : (textOf? (scriptTemplate l) c).isSome = true := by
    obtain ⟨_, h, -⟩ := exists_textOf?_script (namesServerOnce_scriptTemplate l) hsettled
    exact Option.isSome_of_eq_some h
  obtain ⟨_, hreadme, -⟩ := exists_textOf? within_readmeTemplate (relates_context c)
  obtain ⟨_, hrequirements, -⟩ := exists_textOf? within_requirementsTemplate hsettled
  simp only [templates, List.forall_mem_cons, List.not_mem_nil, false_imp_iff, implies_true, and_true]
  exact ⟨Option.isSome_of_eq_some hreadme, hcontainer .python, hcontainer .typeScript,
    hscript .python, hscript .typeScript, Option.isSome_of_eq_some hrequirements⟩

/-- All templates are registered, and each is rendered to its text. -/
theorem exists_library :
    ∃ library, Project.library = .ok library ∧ ∀ (c : ProjectContext), ∀ e ∈ templates, ∀ text,
      textOf? e.2 c = some text → library.render e.1 c.toJson = .ok text := by
  have hparse : ∀ e ∈ templates, (parse? e.2).isSome = true := by
    intro e he
    have htext := isSome_textOf? (Module.context ⟨"", "", .python, []⟩ {}) e he
    cases hparts : parse? e.2 with
    | none => simp [textOf?, hparts] at htext
    | some parts => rfl
  obtain ⟨library, hlibrary, hfound, -⟩ := Library.exists_foldlM_register templates {} (by decide) hparse
  refine ⟨library, hlibrary, fun c e he text htext => ?_⟩
  obtain ⟨parts, hparts, htext⟩ := Option.bind_eq_some_iff.mp htext
  exact Library.render_eq_ok ((hfound e he).trans hparts) htext

end Scaffold.Project
