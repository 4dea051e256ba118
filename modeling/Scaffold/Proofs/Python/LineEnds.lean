import Scaffold.Proofs.Python.Reading
import Scaffold.Proofs.Source.RawText

namespace Scaffold.Python

open Text

theorem clean_preamble (m : Module) {s : Settings} (h : ∀ e ∈ s.entries, Clean e.2) :
    ∀ l ∈ preamble m s, Clean l.text := by
  obtain ⟨hprotocol, hsdk, -, -, hpydantic⟩ := Settings.clean_versions h
  unfold preamble
  rw [List.forall_mem_append, List.forall_mem_append, List.forall_mem_append, Line.clean_block,
    Line.clean_block]
  refine ⟨⟨⟨Line.clean_heading (by decide) _ _, ?_⟩, ?_⟩, by decide⟩
  · simp only [List.forall_mem_cons, List.not_mem_nil, false_imp_iff, implies_true, clean_append,
      hprotocol, hsdk, hpydantic, and_true]
    repeat rw [clean_literal]
    decide
  · simp only [List.forall_mem_cons, List.not_mem_nil, false_imp_iff, implies_true, clean_append,
      clean_quote, and_true]
    repeat rw [clean_literal]
    decide

theorem clean_hintLines : ∀ l ∈ hintLines, Clean l.text := by
  rw [hintLines, Line.clean_block]
  simp only [List.forall_mem_cons, List.not_mem_nil, false_imp_iff, implies_true, and_true]
  repeat rw [clean_literal]
  decide

theorem clean_epilogue : ∀ l ∈ epilogue, Clean l.text := by
  simp only [epilogue, Line.block, Line.blank, List.forall_mem_append, List.forall_mem_map,
    List.forall_mem_cons, List.not_mem_nil, false_imp_iff, implies_true, and_true]
  repeat rw [clean_literal]
  decide

theorem clean_argumentLines {names : List String} (h : ∀ n ∈ names, IsIdentifier n) :
    ∀ l ∈ argumentLines names, Clean l.text := by
  have hequals : Clean "=" := by decide
  have hcomma : Clean "," := by decide
  induction names with
  | nil => exact fun l hl => absurd hl List.not_mem_nil
  | cons n rest ih =>
    obtain ⟨hn, hrest⟩ := List.forall_mem_cons.mp h
    have hpair : Clean (n ++ "=" ++ n) := by simp only [clean_append, hn.clean, hequals, and_self]
    cases rest with
    | nil => exact List.forall_mem_singleton.mpr hpair
    | cons m rest =>
      exact List.forall_mem_cons.mpr ⟨clean_append.mpr ⟨hpair, hcomma⟩, ih hrest⟩

theorem clean_echo {t : ToolDecl} (h : t.Tidy) : Clean (echo t) := by
  have hsep : Clean ", " := by decide
  have hholes : Clean (", ".intercalate (t.paramNames.map fun n => "\x7b" ++ n ++ "\x7d")) := by
    refine (clean_intercalate hsep).mpr (List.forall_mem_map.mpr fun n hn => ?_)
    rw [clean_append, clean_append]
    exact ⟨⟨by decide, (h.names n hn).clean⟩, by decide⟩
  unfold echo
  rw [formatStringText_eq_self h.name.isNameChar]
  split
  · simp only [clean_append, hholes, h.name.clean, and_true]
    decide
  · simp only [clean_append, h.name.clean, and_true]
    decide

theorem clean_signature {t : ToolDecl} (h : t.Tidy) : Clean (signature t) := by
  have hsep : Clean ", " := by decide
  refine (clean_intercalate hsep).mpr (List.forall_mem_map.mpr fun p hp => ?_)
  rw [clean_append, clean_append]
  exact ⟨⟨h.clean_paramName hp, by decide⟩, h.tokens p hp⟩

theorem clean_modelLines {t : ToolDecl} (h : t.Tidy) :
    (∀ l ∈ modelLines t, Clean l.text) ↔ ∀ p ∈ t.params, Clean p.validator := by
  have hname := h.name.clean
  have hfield : (∀ l ∈ t.params.map fieldLine, Clean l.text) ↔ ∀ p ∈ t.params, Clean p.validator := by
    have hcolon : Clean ": " := by decide
    have hequals : Clean " = " := by decide
    rw [List.forall_mem_map]
    refine forall₂_congr fun p hp => ?_
    rw [fieldLine, clean_append, clean_append, clean_append, clean_append]
    exact and_iff_right ⟨⟨⟨h.clean_paramName hp, hcolon⟩, h.tokens p hp⟩, hequals⟩
  have hhead : ∀ l ∈ Line.block 0 ["# Parameter validation model for " ++ t.name,
      "class " ++ modelName t ++ "(BaseModel):"], Clean l.text := by
    rw [Line.clean_block]
    simp only [modelName, List.forall_mem_cons, List.not_mem_nil, false_imp_iff, implies_true,
      clean_append, hname, and_true]
    decide
  unfold modelLines
  rw [List.forall_mem_append, List.forall_mem_append, List.forall_mem_append, List.forall_mem_append,
    hfield]
  refine ⟨fun hlines => hlines.1.1.1.2, fun hparams => ⟨⟨⟨⟨hhead, hparams⟩, by decide⟩, ?_⟩, by decide⟩⟩
  rw [Line.clean_block]
  simp only [List.forall_mem_cons, List.not_mem_nil, false_imp_iff, implies_true, and_true]
  repeat rw [clean_literal]
  decide

theorem clean_validationLines {t : ToolDecl} (h : t.Tidy) : ∀ l ∈ validationLines t, Clean l.text := by
  have hname := h.name.clean
  unfold validationLines
  rw [List.forall_mem_append, List.forall_mem_append]
  refine ⟨⟨?_, clean_argumentLines h.names⟩, by decide⟩
  rw [Line.clean_block]
  simp only [modelName, List.forall_mem_cons, List.not_mem_nil, false_imp_iff, implies_true,
    clean_append, hname, and_true]
  decide

/-- The lines of a tool are clean if the validators of its parameters are. -/
theorem clean_toolLines {t : ToolDecl} (h : t.Tidy) :
    (∀ l ∈ toolLines t, Clean l.text) ↔ ∀ p ∈ t.params, Clean p.validator := by
  have hmodel := ToolDecl.clean_whenParams (clean_modelLines h)
  have hvalidation : ∀ l ∈ (if t.hasParams then validationLines t else []), Clean l.text := by
    split
    · exact clean_validationLines h
    · exact fun l hl => absurd hl List.not_mem_nil
  have hhead : ∀ l ∈ [(⟨0, "@server.tool()"⟩ : Line),
      ⟨0, "async def " ++ t.name ++ "(" ++ signature t ++ ") -> Dict[str, Any]:"⟩,
      ⟨1, "\"\"\"" ++ docstringBody t.description ++ "\"\"\""⟩], Clean l.text := by
    simp only [List.forall_mem_cons, List.not_mem_nil, false_imp_iff, implies_true, clean_append,
      h.name.clean, clean_signature h, clean_docstringBody, and_true]
    decide
  have hanswer : Clean ("return \x7b\"result\": " ++ echo t ++ "\x7d") := by
    simp only [clean_append, clean_echo h, and_true]
    decide
  unfold toolLines
  rw [List.forall_mem_append, List.forall_mem_append, List.forall_mem_append, List.forall_mem_append,
    List.forall_mem_append, hmodel]
  exact ⟨fun hlines => hlines.1.1.1.1.2, fun hparams =>
    ⟨⟨⟨⟨⟨by decide, hparams⟩, hhead⟩, hvalidation⟩, clean_hintLines⟩,
      List.forall_mem_singleton.mpr hanswer⟩⟩

/-- The lines of a server are clean if the validators of all parameters are. -/
theorem clean_print {m : Module} {s : Settings} (hs : ∀ e ∈ s.entries, Clean e.2)
    (hm : ∀ t ∈ m.tools, t.Tidy) :
    Clean (print m s) ↔ ∀ t ∈ m.tools, ∀ p ∈ t.params, Clean p.validator :=
  Line.clean_renderAll_tools (by decide) (clean_preamble m hs) clean_epilogue fun t ht =>
    clean_toolLines (hm t ht)

theorem clean_typeToken (p : Parameter) : Clean (declare p).typeToken := by
  have hsep : Clean ", " := by decide
  simp only [declare, fragment, Fragment.resolve]
  cases p.alternatives with
  | none => cases p.type <;> decide
  | some values =>
    simp only [Option.map_some, Option.getD_some, literalType, clean_append,
      (clean_intercalate hsep).mpr (clean_quoteAll values), and_true]
    decide

/-- A keyword argument is clean if the text that it shows as it is is clean. -/
theorem clean_keyword (type : ParamType) (k : Check) :
    (∀ part ∈ keyword? type k, Clean part) ↔ k.RawClean .python type := by
  have hsome {part : String} : (∀ q ∈ some part, Clean q) ↔ Clean part := by
    simp only [Option.mem_some_iff, forall_eq']
  have hnone : ∀ q ∈ (none : Option String), Clean q := fun q hq => nomatch hq
  have hnumber {before value : String} (hbefore : Clean before) (hvalue : NumberText value.toList) :
      Clean (before ++ value) := clean_append.mpr ⟨hbefore, clean_of_numberText hvalue⟩
  cases k with
  | minLength n => exact iff_of_true (hsome.mpr (hnumber (by decide) (numberText_toString _))) trivial
  | maxLength n => exact iff_of_true (hsome.mpr (hnumber (by decide) (numberText_toString _))) trivial
  | pattern x =>
    have hregex : Clean ("regex=" ++ quote x) := clean_append.mpr ⟨by decide, clean_quote x⟩
    exact iff_of_true (hsome.mpr hregex) fun h => nomatch h
  | atLeast x => exact iff_of_true (hsome.mpr (hnumber (by decide) x.numberText_text)) trivial
  | atMost x => exact iff_of_true (hsome.mpr (hnumber (by decide) x.numberText_text)) trivial
  | default v =>
    have hbefore : Clean "default=" := by decide
    rw [keyword?, hsome, clean_append, and_iff_right hbefore,
      v.clean_literal (fun b => by cases b <;> decide)]
    exact Iff.rfl
  | email => exact iff_of_true hnone trivial
  | url => exact iff_of_true hnone trivial
  | whole => exact iff_of_true hnone trivial
  | omissible => exact iff_of_true hnone trivial

theorem clean_validator (p : Parameter) :
    Clean (declare p).validator ↔ ∀ k ∈ p.checks, k.RawClean .python p.type := by
  have hparts : (∀ part ∈ (fragment p).parts, Clean part) ↔ ∀ k ∈ p.checks, k.RawClean .python p.type := by
    simp only [← clean_keyword, mem_parts_iff]
    exact ⟨fun h k hk part hpart => h part ⟨k, hk, hpart⟩, fun h part ⟨k, hk, hpart⟩ => h k hk part hpart⟩
  have hbefore : Clean "Field(description=" := by decide
  have hafter : Clean ")" := by decide
  rw [declare, clean_append, clean_append, clean_append, and_iff_left hafter, Fragment.clean_splice,
    hparts]
  exact and_iff_right ⟨hbefore, clean_quote _⟩

end Scaffold.Python
