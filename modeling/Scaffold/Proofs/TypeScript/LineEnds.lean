import Scaffold.Proofs.Source.RawText
import Scaffold.Proofs.TypeScript.Reading

namespace Scaffold.TypeScript

open Text

theorem clean_preamble (m : Module) {s : Settings} (h : ∀ e ∈ s.entries, Clean e.2) :
    ∀ l ∈ preamble m s, Clean l.text := by
  obtain ⟨hprotocol, -, hsdk, hzod, -⟩ := Settings.clean_versions h
  unfold preamble
  rw [List.forall_mem_append, List.forall_mem_append, List.forall_mem_append, Line.clean_block,
    Line.clean_block]
  refine ⟨⟨⟨Line.clean_heading (by decide) _ _, ?_⟩, ?_⟩, by decide⟩
  · simp only [List.forall_mem_cons, List.not_mem_nil, false_imp_iff, implies_true, clean_append,
      hprotocol, hsdk, hzod, and_true]
    repeat rw [clean_literal]
    decide
  · simp only [List.forall_mem_cons, List.not_mem_nil, false_imp_iff, implies_true, clean_append,
      clean_quote, and_true]
    repeat rw [clean_literal]
    decide

theorem clean_hintLines : ∀ l ∈ hintLines, Clean l.text := by
  rw [hintLines, Line.clean_block]
  simp only [List.forall_mem_cons, List.not_mem_nil, false_imp_iff, implies_true, and_true]
  repeat rw [clean_literal]
  decide

theorem clean_epilogue : ∀ l ∈ epilogue, Clean l.text := by
  simp only [epilogue, Line.block, Line.blank, List.forall_mem_append, List.forall_mem_map,
    List.forall_mem_cons, List.not_mem_nil, false_imp_iff, implies_true, and_true]
  repeat rw [clean_literal]
  decide

theorem clean_echo {t : ToolDecl} (h : t.Tidy) : Clean (echo t) := by
  have hsep : Clean ", " := by decide
  have hholes : Clean (", ".intercalate (t.paramNames.map fun n => "$\x7b" ++ n ++ "\x7d")) := by
    refine (clean_intercalate hsep).mpr (List.forall_mem_map.mpr fun n hn => ?_)
    rw [clean_append, clean_append]
    exact ⟨⟨by decide, (h.names n hn).clean⟩, by decide⟩
  unfold echo
  rw [templateText_eq_self h.name.isNameChar]
  split
  · simp only [clean_append, hholes, h.name.clean, and_true]
    decide
  · simp only [clean_append, h.name.clean, and_true]
    decide

theorem clean_signature {t : ToolDecl} (h : t.Tidy) : Clean (signature t) := by
  have hsep : Clean ", " := by decide
  exact (clean_intercalate hsep).mpr fun n hn => (h.names n hn).clean

theorem clean_schemaLines {t : ToolDecl} (h : t.Tidy) :
    (∀ l ∈ schemaLines t, Clean l.text) ↔ ∀ p ∈ t.params, Clean p.validator := by
  have hname := h.name.clean
  have hkeys : (∀ l ∈ t.params.map fun p => (⟨1, p.name ++ ": " ++ p.validator ++ ","⟩ : Line),
      Clean l.text) ↔ ∀ p ∈ t.params, Clean p.validator := by
    have hcolon : Clean ": " := by decide
    have hcomma : Clean "," := by decide
    rw [List.forall_mem_map]
    refine forall₂_congr fun p hp => ?_
    rw [clean_append, clean_append, clean_append, and_iff_left hcomma]
    exact and_iff_right ⟨h.clean_paramName hp, hcolon⟩
  have hhead : ∀ l ∈ Line.block 0 ["// Parameter validation schema for " ++ t.name,
      "const " ++ schemaName t ++ " = z.object(\x7b"], Clean l.text := by
    rw [Line.clean_block]
    simp only [schemaName, List.forall_mem_cons, List.not_mem_nil, false_imp_iff, implies_true,
      clean_append, hname, and_true]
    repeat rw [clean_literal]
    decide
  unfold schemaLines
  rw [List.forall_mem_append, List.forall_mem_append, hkeys]
  exact ⟨fun hlines => hlines.1.2, fun hparams => ⟨⟨hhead, hparams⟩, by decide⟩⟩

theorem clean_docLines {t : ToolDecl} (h : t.Tidy) : ∀ l ∈ docLines t, Clean l.text := by
  have htag (p : ParamDecl) (hp : p ∈ t.params) : Clean (paramTag p) := by
    have htype := clean_docCommentText (h.tokens p hp)
    have hdescription := clean_docCommentText (clean_flatten p.description)
    unfold paramTag
    dsimp only
    split
    · simp only [clean_append, htype, h.clean_paramName hp, and_true]
      decide
    · simp only [clean_append, htype, h.clean_paramName hp, hdescription, and_true]
      decide
  have hhead : ∀ l ∈ [(⟨0, "/**"⟩ : Line), ⟨0, " * " ++ docCommentText (flatten t.description)⟩],
      Clean l.text := by
    simp only [List.forall_mem_cons, List.not_mem_nil, false_imp_iff, implies_true, clean_append,
      clean_docCommentText (clean_flatten t.description), and_true]
    decide
  unfold docLines
  rw [List.forall_mem_append, List.forall_mem_append, List.forall_mem_map]
  dsimp only
  exact ⟨⟨hhead, htag⟩, by decide⟩

theorem clean_constraintEchoes (c : Constraints) : ∀ e ∈ constraintEchoes c, Clean e.1 ∧ Clean e.2 := by
  have hone {α : Type} {key : String} (hkey : Clean key) {value : α → String}
      (hvalue : ∀ a, Clean (value a)) (o : Option α) :
      ∀ e ∈ (o.map fun a => (key, value a)).toList, Clean e.1 ∧ Clean e.2 := by
    intro e he
    obtain ⟨a, -, rfl⟩ := Option.map_eq_some_iff.mp (Option.mem_toList.mp he)
    exact ⟨hkey, hvalue a⟩
  have hlength (n : UInt64) : Clean (toString n.toNat) := clean_of_numberText (numberText_toString _)
  have hbound (x : Binary64) : Clean x.text := clean_of_numberText x.numberText_text
  have hallowed (vs : List String) : Clean ("[" ++ ", ".intercalate (quoteAll vs) ++ "]") := by
    have hsep : Clean ", " := by decide
    simp only [clean_append, (clean_intercalate hsep).mpr (clean_quoteAll vs), and_true]
    decide
  have hdefault (v : DefaultValue) : Clean (echoDefault v) := by
    cases v with
    | bool b => cases b <;> decide
    | number n => exact clean_of_numberText n.numberText_text
    | string s => exact clean_quote s
  have hrequired (b : Bool) : Clean (boolText b) := by cases b <;> decide
  unfold constraintEchoes
  rw [List.forall_mem_append, List.forall_mem_append, List.forall_mem_append, List.forall_mem_append,
    List.forall_mem_append, List.forall_mem_append, List.forall_mem_append]
  exact ⟨⟨⟨⟨⟨⟨⟨hone (by decide) hlength _, hone (by decide) hlength _⟩,
    hone (by decide) clean_quote _⟩, hone (by decide) hbound _⟩, hone (by decide) hbound _⟩,
    hone (by decide) hallowed _⟩, hone (by decide) hdefault _⟩, hone (by decide) hrequired _⟩

theorem clean_metadataEntry (p : ParamDecl) : Clean (metadataEntry p) := by
  have hsep : Clean ", " := by decide
  have hcolon : Clean ": " := by decide
  have hentries : ∀ e ∈ ("type", quote p.type.name) :: ("description", quote p.description) ::
      constraintEchoes p.constraints, Clean (e.1 ++ ": " ++ e.2) := by
    have hclean : ∀ e ∈ ("type", quote p.type.name) :: ("description", quote p.description) ::
        constraintEchoes p.constraints, Clean e.1 ∧ Clean e.2 :=
      List.forall_mem_cons.mpr ⟨⟨(by decide : Clean "type"), clean_quote _⟩, List.forall_mem_cons.mpr
        ⟨⟨(by decide : Clean "description"), clean_quote _⟩, clean_constraintEchoes _⟩⟩
    intro e he
    obtain ⟨hkey, hvalue⟩ := hclean e he
    exact clean_append.mpr ⟨clean_append.mpr ⟨hkey, hcolon⟩, hvalue⟩
  unfold metadataEntry
  dsimp only
  rw [clean_append, clean_append, clean_intercalate hsep, List.forall_mem_map]
  exact ⟨⟨by decide, hentries⟩, by decide⟩

theorem clean_handlerHead {t : ToolDecl} (h : t.Tidy) : ∀ l ∈ handlerHead t, Clean l.text := by
  have hentry : ∀ l ∈ t.params.map fun p => (⟨2, p.name ++ ": " ++ metadataEntry p ++ ","⟩ : Line),
      Clean l.text := by
    rw [List.forall_mem_map]
    intro p hp
    simp only [clean_append, h.clean_paramName hp, clean_metadataEntry, true_and, and_true]
    decide
  unfold handlerHead
  split
  · rw [List.forall_mem_append, List.forall_mem_append]
    refine ⟨⟨by decide, hentry⟩, ?_⟩
    simp only [schemaName, Line.blank, List.forall_mem_cons, List.not_mem_nil, false_imp_iff,
      implies_true, clean_append, clean_signature h, h.name.clean, and_true]
    repeat rw [clean_literal]
    decide
  · decide

/-- The lines of a tool are clean if the validators of its parameters are. -/
theorem clean_toolLines {t : ToolDecl} (h : t.Tidy) :
    (∀ l ∈ toolLines t, Clean l.text) ↔ ∀ p ∈ t.params, Clean p.validator := by
  have hschema := ToolDecl.clean_whenParams (clean_schemaLines h)
  have hregister : ∀ l ∈ [(⟨0, "server.tool(\x7b"⟩ : Line), ⟨1, "name: " ++ quote t.name ++ ","⟩,
      ⟨1, "description: " ++ quote t.description ++ ","⟩], Clean l.text := by
    simp only [List.forall_mem_cons, List.not_mem_nil, false_imp_iff, implies_true, clean_append,
      clean_quote, and_true]
    decide
  have hanswer : ∀ l ∈ [(⟨2, "return \x7b result: " ++ echo t ++ " \x7d;"⟩ : Line), ⟨1, "\x7d,"⟩,
      ⟨0, "\x7d);"⟩], Clean l.text := by
    simp only [List.forall_mem_cons, List.not_mem_nil, false_imp_iff, implies_true, clean_append,
      clean_echo h, and_true]
    decide
  unfold toolLines
  rw [List.forall_mem_append, List.forall_mem_append, List.forall_mem_append, List.forall_mem_append,
    List.forall_mem_append, List.forall_mem_append, hschema]
  exact ⟨fun hlines => hlines.1.1.1.1.1.2, fun hparams =>
    ⟨⟨⟨⟨⟨⟨by decide, hparams⟩, clean_docLines h⟩, hregister⟩, clean_handlerHead h⟩, clean_hintLines⟩,
      hanswer⟩⟩

/-- The lines of a server are clean if the validators of all parameters are. -/
theorem clean_print {m : Module} {s : Settings} (hs : ∀ e ∈ s.entries, Clean e.2)
    (hm : ∀ t ∈ m.tools, t.Tidy) :
    Clean (print m s) ↔ ∀ t ∈ m.tools, ∀ p ∈ t.params, Clean p.validator :=
  Line.clean_renderAll_tools (by decide) (clean_preamble m hs) clean_epilogue fun t ht =>
    clean_toolLines (hm t ht)

theorem clean_typeToken (p : Parameter) : Clean (declare p).typeToken := by
  have hsep : Clean " | " := by decide
  simp only [declare]
  cases p.alternatives with
  | none => cases p.type <;> decide
  | some values => exact (clean_intercalate hsep).mpr (clean_quoteAll values)

/-- A call is clean if the text that it shows as it is is clean. -/
theorem clean_call (type : ParamType) (k : Check) :
    Clean (call type k) ↔ k.RawClean .typeScript type := by
  have hclosing : Clean ")" := by decide
  -- Only the body of an expression and the literal of a default can hold what is not clean.
  cases k with
  | minLength n => exact iff_of_true (clean_number (by decide) hclosing (numberText_toString _)) trivial
  | maxLength n => exact iff_of_true (clean_number (by decide) hclosing (numberText_toString _)) trivial
  | pattern x =>
    have hopening : Clean ".regex(/" := by decide
    have hclosed : Clean "/)" := by decide
    rw [call, clean_append, clean_append, and_iff_left hclosed, and_iff_right hopening,
      clean_regexBody_iff]
    exact ⟨fun h _ => h, fun h => h rfl⟩
  | atLeast x => exact iff_of_true (clean_number (by decide) hclosing x.numberText_text) trivial
  | atMost x => exact iff_of_true (clean_number (by decide) hclosing x.numberText_text) trivial
  | default v =>
    have hopening : Clean ".default(" := by decide
    have hdate : Clean ".default(new Date(" := by decide
    have hclosed : Clean "))" := by decide
    have hliteral := v.clean_literal (fun b => (by cases b <;> decide : Clean (boolText b))) type
    rw [call, defaultCall]
    split
    · rw [clean_append, clean_append, and_iff_left hclosed, and_iff_right hdate, hliteral]
      exact Iff.rfl
    · rw [clean_append, clean_append, and_iff_left hclosing, and_iff_right hopening, hliteral]
      exact Iff.rfl
  | email => exact iff_of_true (by decide : Clean ".email()") trivial
  | url => exact iff_of_true (by decide : Clean ".url()") trivial
  | whole => exact iff_of_true (by decide : Clean ".int()") trivial
  | omissible => exact iff_of_true (by decide : Clean ".optional()") trivial

theorem clean_validator (p : Parameter) :
    Clean (declare p).validator ↔ ∀ k ∈ p.checks, k.RawClean .typeScript p.type := by
  have hparts : (∀ part ∈ (fragment p).parts, Clean part) ↔
      ∀ k ∈ p.checks, k.RawClean .typeScript p.type := by
    rw [parts_fragment, List.forall_mem_map]
    exact forall₂_congr fun k _ => clean_call p.type k
  have hschema : Clean ((fragment p).resolve (baseSchema p.type)) := by
    have hsep : Clean ", " := by decide
    simp only [fragment, Fragment.resolve]
    cases p.alternatives with
    | none =>
      rw [Option.map_none, Option.getD_none]
      cases p.type <;> decide
    | some values =>
      simp only [Option.map_some, Option.getD_some, enumSchema, clean_append,
        (clean_intercalate hsep).mpr (clean_quoteAll values), and_true]
      decide
  rw [declare, clean_append, and_iff_right hschema, Fragment.clean_splice, hparts]

end Scaffold.TypeScript
