import Scaffold.Pattern.Estimate
import Scaffold.Proofs.Python.Names
import Scaffold.Proofs.TypeScript.Names

namespace Scaffold

namespace Server

variable {s : Server}

/-- A reader of the language of the server finds its tools in the source, each with the names of its
parameters in every place. -/
def ReadsBack (s : Server) (source : String) : Prop :=
  match s.language with
  | .python => Python.outline source = s.tools.flatMap Python.toolItems
  | .typeScript => TypeScript.outline source = s.tools.flatMap TypeScript.toolItems

theorem readsBack_python (hl : s.language = .python) {source : String}
    (h : Python.Declares false false source (s.tools.flatMap Python.toolItems)) :
    s.ReadsBack source := by
  rw [ReadsBack, hl]
  exact Python.outline_of_declares h

theorem readsBack_typeScript (hl : s.language = .typeScript) {source : String}
    (h : TypeScript.Declares .outside .outside source (s.tools.flatMap TypeScript.toolItems)) :
    s.ReadsBack source := by
  rw [ReadsBack, hl]
  exact TypeScript.outline_of_declares h

/-- The names are consistent in the source of every server that has been accepted. What the settings
decide stands before the tools: the rest of the source reads back by itself under any settings, and the
whole of it does when no setting holds the end of a line. -/
theorem exists_readsBack_emit [Pattern.SizeLimit] (ha : s.Accepted) :
    ∃ body, (∀ settings, ∃ head, s.emit settings = head ++ body) ∧ s.ReadsBack body ∧
      ∀ settings : Settings, settings.OneLine → s.ReadsBack (s.emit settings) := by
  obtain ⟨limits, hv⟩ := ha.valid
  cases hl : s.language with
  | python =>
    -- Only the preamble shows settings, so the lines of the tools and after them are the body.
    have hbody := Python.declares_body hv.tools_valid
    have hemit (settings : Settings) : s.emit settings =
        Line.renderAll Python.indentUnit (Python.preamble (s.moduleIn .python) settings) ++
          Line.renderAll Python.indentUnit
            ((s.moduleIn .python).tools.flatMap Python.toolLines ++ Python.epilogue) := by
      rw [emit, toModule, hl, ← Line.renderAll_append, ← List.append_assoc]
      rfl
    refine ⟨_, fun settings => ⟨_, hemit settings⟩, readsBack_python hl hbody, fun settings hs => ?_⟩
    have h := (Python.declares_preamble (s.moduleIn .python) hs).append hbody
    rw [← hemit] at h
    exact readsBack_python hl h
  | typeScript =>
    have hbody := TypeScript.declares_body hv.tools_valid
    have hemit (settings : Settings) : s.emit settings =
        Line.renderAll TypeScript.indentUnit
            (TypeScript.preamble (s.moduleIn .typeScript) settings) ++
          Line.renderAll TypeScript.indentUnit
            ((s.moduleIn .typeScript).tools.flatMap TypeScript.toolLines ++ TypeScript.epilogue) := by
      rw [emit, toModule, hl, ← Line.renderAll_append, ← List.append_assoc]
      rfl
    refine ⟨_, fun settings => ⟨_, hemit settings⟩, readsBack_typeScript hl hbody,
      fun settings hs => ?_⟩
    have h := (TypeScript.declares_preamble (s.moduleIn .typeScript) hs).append hbody
    rw [← hemit] at h
    exact readsBack_typeScript hl h

/-- A text that would begin a model, a schema, a handler and an answer of its own. -/
theorem readsBack_emit_imitation :
    let text := "\n\x7d);\nclass greet_params(BaseModel):\n    mood: \"\"\",)\n  \x7d,\n\x60*/"
    let python := saying .python text
    let typeScript := saying .typeScript text
    python.ReadsBack (python.emit {}) ∧ typeScript.ReadsBack (typeScript.emit {}) := by
  intro text python typeScript
  obtain ⟨-, -, -, hpython⟩ := exists_readsBack_emit (s := python) ⟨{}, by decide +kernel⟩
  obtain ⟨-, -, -, htypeScript⟩ := exists_readsBack_emit (s := typeScript) ⟨{}, by decide +kernel⟩
  exact ⟨hpython {} Settings.oneLine_default, htypeScript {} Settings.oneLine_default⟩

end Server

end Scaffold
