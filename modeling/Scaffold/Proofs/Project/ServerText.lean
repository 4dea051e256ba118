import Scaffold.Proofs.Project.Bundle

namespace Scaffold

open Project

/-- The lines of a file. -/
def ProjectFile.lines (file : ProjectFile) : List String :=
  (Text.splitWhere (· = '\n') file.content.toList).map String.ofList

/-- Both projects have a file with this path, and it has the same content. -/
def Project.Shares (p q : Project) (path : String) : Prop :=
  ∃ file, p.find? path = some file ∧ q.find? path = some file

/-- A script is its first line, the comment with the name of the server, and what is behind that. -/
theorem ProjectFile.lines_script (path name rest : String) :
    ProjectFile.lines ⟨path, scriptHead ++ Text.flatten name ++ "\n" ++ rest⟩ =
      ["#!/usr/bin/env sh", scriptMark ++ Text.flatten name] ++ ProjectFile.lines ⟨path, rest⟩ := by
  -- A line break in the name would be a blank of the flattened name, and these are spaces.
  have hmark : (scriptMark ++ Text.flatten name).toList.all (· ≠ '\n') = true := by
    rw [String.toList_append, List.all_append, Bool.and_eq_true]
    refine ⟨by decide, List.all_eq_true.mpr fun c hc => ?_⟩
    by_contra hbreak
    obtain rfl : c = '\n' := by simpa using hbreak
    exact absurd (Text.eq_space_of_mem_flatten hc rfl) (by decide)
  have hfirst : "#!/usr/bin/env sh".toList.all (· ≠ '\n') = true := by decide
  have hpiece {cs : List Char} (h : cs.all (· ≠ '\n') = true) :
      Text.splitWhere (· = '\n') cs = [cs] := by
    refine Text.splitWhere_of_forall fun c hc => ?_
    simpa using List.all_eq_true.mp h c hc
  have hcontent (flat : String) : (scriptHead ++ flat ++ "\n" ++ rest).toList =
      "#!/usr/bin/env sh".toList ++ '\n' :: ((scriptMark ++ flat).toList ++ '\n' :: rest.toList) := by
    have hhead : scriptHead.toList = "#!/usr/bin/env sh".toList ++ '\n' :: scriptMark.toList := by decide
    simp only [String.toList_append, hhead, List.append_assoc, List.cons_append]
    rfl
  rw [lines, hcontent, Text.splitWhere_append_cons (by rfl), Text.splitWhere_append_cons (by rfl),
    hpiece hfirst, hpiece hmark]
  simp [lines]

/-- Under some settings, the texts of two servers reach no further into the files that build their projects
than the second line of the script. -/
def Server.Insulated (settings : Settings) (s t : Server) : Prop :=
  ∃ p q, s.generate settings = .ok p ∧ t.generate settings = .ok q ∧
    p.Shares q "Dockerfile" ∧
    (s.language = .python → p.Shares q "requirements.txt") ∧
    (s.language = .typeScript → p.Shares q "tsconfig.json") ∧
    ∃ f g, p.find? "install.sh" = some f ∧ q.find? "install.sh" = some g ∧
      f.lines.length = g.lines.length ∧
      (∀ i, i ≠ 1 → f.lines[i]? = g.lines[i]?) ∧
      f.lines[1]? = some (scriptMark ++ Text.flatten s.name) ∧
      g.lines[1]? = some (scriptMark ++ Text.flatten t.name)

namespace Server

/-- The files of a bundle under the paths that both languages have. -/
theorem find?_bundle (s : Server) (settings : Settings) (requirements readme container script : String) :
    (s.bundle settings requirements readme container script).find? "Dockerfile" =
        some ⟨"Dockerfile", container⟩ ∧
      (s.bundle settings requirements readme container script).find? "install.sh" =
        some ⟨"install.sh", script⟩ := by
  unfold bundle manifests
  cases s.language <;> exact ⟨rfl, rfl⟩

theorem find?_bundle_python {s : Server} (hl : s.language = .python) (settings : Settings)
    (requirements readme container script : String) :
    (s.bundle settings requirements readme container script).find? "requirements.txt" =
      some ⟨"requirements.txt", requirements⟩ := by
  unfold bundle manifests
  rw [hl]
  rfl

theorem find?_bundle_typeScript {s : Server} (hl : s.language = .typeScript) (settings : Settings)
    (requirements readme container script : String) :
    (s.bundle settings requirements readme container script).find? "tsconfig.json" =
      some ⟨"tsconfig.json", compilerManifest Language.typeScript.sourceFile⟩ := by
  unfold bundle manifests
  rw [hl]
  rfl

/-- The texts of a server reach no file that builds it, but for a comment. -/
theorem insulated_of_language_eq {s t : Server} (hl : s.language = t.language) (settings : Settings) :
    Insulated settings s t := by
  have hrelated : settledSchema.Relates (s.toModule.context settings).toJson
      (t.toModule.context settings).toJson := relates_settled hl rfl
  obtain ⟨requirements, hreqs, hreqt⟩ := exists_textOf? within_requirementsTemplate hrelated
  obtain ⟨container, hcons, hcont⟩ := exists_textOf? (within_containerTemplate s.language) hrelated
  obtain ⟨rest, hscrs, hscrt⟩ :=
    exists_textOf?_script (namesServerOnce_scriptTemplate s.language) hrelated
  -- The two may well be presented differently, but each of them is.
  have hreadme (u : Server) :=
    exists_textOf? within_readmeTemplate (relates_context (u.toModule.context settings))
  obtain ⟨readme, hreads, -⟩ := hreadme s
  obtain ⟨readme', hreadt, -⟩ := hreadme t
  rw [hl] at hcont hscrt
  have hs := generate_eq hreqs hreads hcons hscrs
  have ht := generate_eq hreqt hreadt hcont hscrt
  refine ⟨_, _, hs, ht, ?_, ?_, ?_, ?_⟩
  · exact ⟨_, (find?_bundle ..).1, (find?_bundle ..).1⟩
  · intro h
    exact ⟨_, find?_bundle_python h .., find?_bundle_python (hl ▸ h) ..⟩
  · intro h
    exact ⟨_, find?_bundle_typeScript h .., find?_bundle_typeScript (hl ▸ h) ..⟩
  · refine ⟨_, _, (find?_bundle ..).2, (find?_bundle ..).2, ?_⟩
    have hname (u : Server) : (u.toModule.context settings).serverName = Text.flatten u.name := rfl
    simp only [hname, ProjectFile.lines_script]
    refine ⟨by simp, fun i hi => ?_, rfl, rfl⟩
    match i with
    | 0 => rfl
    | 1 => exact absurd rfl hi
    | _ + 2 => rfl

/-- A name with commands on lines of their own, and with a tag of a template. -/
theorem insulated_command :
    let hostile : Server := {
      name := "Notes\nrm -rf /\n\x7b\x7bslug\x7d\x7d $(reboot)"
      description := "\r\nRUN reboot"
      language := .typeScript
      tools := [{ name := "\nset +e", parameters := [{ name := "|", type := .unknown }] }] }
    let plain : Server := { name := "", language := .typeScript }
    hostile.language = plain.language ∧ Insulated {} hostile plain := by
  intro hostile plain
  have hl : hostile.language = plain.language := rfl
  exact ⟨hl, insulated_of_language_eq hl {}⟩

end Server

end Scaffold
