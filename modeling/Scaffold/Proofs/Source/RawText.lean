import Scaffold.Proofs.Source.FreeText
import Scaffold.Proofs.Text.LineEnd

/-!
What the parts of generated source have in common about stray ends of lines. All text of a server
description is quoted, flattened or split into comment lines, but for what two checks show as it is: the
default of a type that is not textual, and the pattern of a regular expression literal.
-/

namespace Scaffold

open Text

namespace Line

theorem clean_renderAll {unit : String} (hunit : Clean unit) {ls : List Line} :
    Clean (renderAll unit ls) ↔ ∀ l ∈ ls, Clean l.text := by
  rw [renderAll, clean_join, List.forall_mem_map]
  refine forall₂_congr fun l _ => ?_
  unfold render
  split
  · next hempty =>
    rw [String.isEmpty_iff.mp hempty]
    exact iff_of_true (by decide) (by decide)
  · have hindent : Clean (String.join (List.replicate l.depth unit)) :=
      clean_join.mpr fun x hx => List.eq_of_mem_replicate hx ▸ hunit
    have hbreak : Clean "\n" := by decide
    rw [clean_append, clean_append, and_iff_left hbreak, and_iff_right hindent]

theorem clean_comment {marker : String} (hmarker : Clean marker) (depth : Nat) (text : String) :
    ∀ l ∈ comment depth marker text, Clean l.text := by
  intro l hl
  obtain ⟨line, hline, rfl⟩ := List.mem_map.mp hl
  dsimp only
  split
  · exact hmarker
  · have hspace : Clean " " := by decide
    exact clean_append.mpr ⟨clean_append.mpr ⟨hmarker, hspace⟩, (oneLine_of_mem_commentLines hline).clean⟩

theorem clean_block {depth : Nat} {texts : List String} :
    (∀ l ∈ block depth texts, Clean l.text) ↔ ∀ x ∈ texts, Clean x := List.forall_mem_map

/-- The comments that source begins with. -/
theorem clean_heading {marker : String} (hmarker : Clean marker) (name description : String) :
    ∀ l ∈ comment 0 marker name ++ [Line.mk 0 marker] ++
      (if description.isEmpty then [] else comment 0 marker description ++ [Line.mk 0 marker]),
      Clean l.text := by
  have hgap (text : String) : ∀ l ∈ comment 0 marker text ++ [Line.mk 0 marker], Clean l.text :=
    List.forall_mem_append.mpr ⟨clean_comment hmarker 0 text, List.forall_mem_singleton.mpr hmarker⟩
  refine List.forall_mem_append.mpr ⟨hgap name, ?_⟩
  split
  · exact fun l hl => absurd hl List.not_mem_nil
  · exact hgap description

/-- Between clean lines, the lines of the tools decide. -/
theorem clean_renderAll_tools {unit : String} (hunit : Clean unit) {before after : List Line}
    (hbefore : ∀ l ∈ before, Clean l.text) (hafter : ∀ l ∈ after, Clean l.text)
    {tools : List ToolDecl} {linesOf : ToolDecl → List Line} {P : ToolDecl → Prop}
    (h : ∀ t ∈ tools, (∀ l ∈ linesOf t, Clean l.text) ↔ P t) :
    Clean (renderAll unit (before ++ tools.flatMap linesOf ++ after)) ↔ ∀ t ∈ tools, P t := by
  rw [clean_renderAll hunit, List.forall_mem_append, List.forall_mem_append, and_iff_left hafter,
    and_iff_right hbefore, List.forall_mem_flatMap]
  exact forall₂_congr h

end Line

theorem Settings.clean_versions {s : Settings} (h : ∀ e ∈ s.entries, Clean e.2) :
    Clean s.protocolVersion ∧ Clean s.pythonSdkVersion ∧ Clean s.typeScriptSdkVersion ∧
      Clean s.zodVersion ∧ Clean s.pydanticRequirement := by
  simp only [entries, List.forall_mem_cons] at h
  exact ⟨h.1, h.2.1, h.2.2.1, h.2.2.2.1, h.2.2.2.2.1⟩

/-- A tool with identifiers for names and with types that hold no stray end of a line. -/
structure ToolDecl.Tidy (t : ToolDecl) : Prop where
  name : IsIdentifier t.name
  names : ∀ n ∈ t.paramNames, IsIdentifier n
  tokens : ∀ p ∈ t.params, Clean p.typeToken

theorem ToolDecl.Tidy.clean_paramName {t : ToolDecl} (h : t.Tidy) {p : ParamDecl} (hp : p ∈ t.params) :
    Clean p.name := (h.names p.name (List.mem_map_of_mem hp)).clean

/-- Lines that a tool without parameters does without. -/
theorem ToolDecl.clean_whenParams {t : ToolDecl} {ls : List Line}
    (h : (∀ l ∈ ls, Clean l.text) ↔ ∀ p ∈ t.params, Clean p.validator) :
    (∀ l ∈ (if t.hasParams then ls else []), Clean l.text) ↔ ∀ p ∈ t.params, Clean p.validator := by
  split
  · exact h
  · next hnone =>
    have hempty : t.params = [] := by simpa [hasParams] using hnone
    rw [hempty]
    exact iff_of_true (fun l hl => absurd hl List.not_mem_nil) fun p hp => absurd hp List.not_mem_nil

theorem clean_quoteAll (values : List String) : ∀ v ∈ quoteAll values, Clean v := by
  rw [quoteAll, List.forall_mem_map]
  exact fun v _ => clean_quote v

theorem Fragment.clean_splice {f : Fragment} : Clean f.splice ↔ ∀ part ∈ f.parts, Clean part := by
  have hcomma : Clean ", " := by decide
  unfold splice
  cases f.style with
  | keywordArguments =>
    rw [clean_join, List.forall_mem_map]
    exact forall₂_congr fun part _ => by rw [clean_append, and_iff_right hcomma]
  | chainedCalls => exact clean_join

theorem clean_number {before after value : String} (hbefore : Clean before) (hafter : Clean after)
    (hvalue : NumberText value.toList) : Clean (before ++ value ++ after) :=
  clean_append.mpr ⟨clean_append.mpr ⟨hbefore, clean_of_numberText hvalue⟩, hafter⟩

/-- Whether the text that a check shows as it is holds no stray end of a line. -/
def Check.RawClean (l : Language) (type : ParamType) : Check → Prop
  | .default v => type.isTextual = false → Clean v.raw
  | .pattern x => l = .typeScript → '\u0085' ∉ x.toList
  | _ => True

/-- A default of a textual type is quoted; any other is shown as it is or as a word. -/
theorem DefaultValue.clean_literal {spell : Bool → String} (hspell : ∀ b, Clean (spell b))
    (type : ParamType) (v : DefaultValue) :
    Clean (v.literal type spell) ↔ (type.isTextual = false → Clean v.raw) := by
  unfold literal
  split
  · next htext => exact iff_of_true (clean_quote _) fun hnot => absurd htext (by rw [hnot]; decide)
  · next hnot =>
    rw [Bool.not_eq_true] at hnot
    have hraw : (type.isTextual = false → Clean v.raw) ↔ Clean v.raw := by simp [hnot]
    rw [hraw]
    split
    · next b => exact iff_of_true (hspell b) (by cases b <;> decide)
    · exact iff_of_true (hspell true) (by decide)
    · exact iff_of_true (hspell false) (by decide)
    · exact Iff.rfl

end Scaffold
