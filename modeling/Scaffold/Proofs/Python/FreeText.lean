import Scaffold.Pattern.Estimate
import Scaffold.Proofs.Python.Reading
import Scaffold.Proofs.Source.FreeText

/-!
Free text cannot get out of its quotes in generated Python: two servers that differ in free text at
most are read as the same code. Each piece of source is compared with the piece of the other server
that stands in the same place.
-/

namespace Scaffold.Python

variable {free : DefaultValue → DefaultValue → Prop} {limits : Limits} {p q : Parameter}
  {t u : Tool}

/-- A word with an equals sign, and a value behind it. -/
theorem alike_setting {key value value' : String} (hkey : closesWord key = true)
    (h : lexer.Alike AtStart InCode value value') :
    lexer.Alike AtStart InCode (key ++ value) (key ++ value') :=
  (alike_atStart (alike_of_closesWord hkey)).append h

theorem alike_literalType {vs ws : List String} (h : vs.length = ws.length) :
    lexer.Alike AtStart InCode (literalType vs) (literalType ws) := by
  unfold literalType
  rw [String.append_assoc, String.append_assoc]
  refine alike_setting (by decide) (Machine.Alike.append (Q := InCode) ?_ ?_)
  · refine Machine.alike_intercalate (alike_of_closesWord (by decide)) (fun _ => AtStart.inCode) ?_
    exact forall₂_map_of_length_eq alike_quote h
  · exact alike_plain (by decide)

theorem plain_baseType (type : ParamType) : plain (baseType type) = true := by
  cases type <;> decide

/-- The types of two parameters. -/
theorem alike_typeToken (h : p.SameShape free q) :
    lexer.Alike AtStart InCode (declare p).typeToken (declare q).typeToken := by
  have ha := h.rel_alternatives
  simp only [declare, fragment, Fragment.resolve]
  cases hp : p.alternatives <;> cases hq : q.alternatives <;> rw [hp, hq] at ha <;> cases ha
  · rw [← h.type]
    exact alike_atStart (alike_plain (plain_baseType p.type))
  · next hlen => exact alike_literalType hlen

theorem numberText_boolLiteral (b : Bool) : NumberText (boolLiteral b).toList := by
  cases b <;> exact numberText_of_all (by decide)

/-- The default of a parameter as a keyword argument. -/
theorem alike_default {v w : DefaultValue} (h : v = w ∨ p.type.isTextual = true ∧ free v w)
    (hv : ∃ c, v.Suits c p.type) :
    lexer.Alike AtStart InCode (v.literal p.type boolLiteral) (w.literal p.type boolLiteral) := by
  obtain ⟨c, hv⟩ := hv
  cases ht : p.type.isTextual with
  | true =>
    simp only [DefaultValue.literal, ht, if_true]
    exact alike_quote _ _
  | false =>
    rcases h with rfl | ⟨ht', -⟩
    · exact alike_atStart (alike_plain (plain_token (hv.tokenText_literal ht numberText_boolLiteral)))
    · rw [ht] at ht'
      cases ht'

/-- The keyword arguments of two parameters stand one beside the other. -/
theorem forall₂_parts [Pattern.SizeLimit] (h : p.SameShape free q) (hp : p.Valid limits) :
    List.Forall₂ (lexer.Alike AtStart InCode) (fragment p).parts (fragment q).parts := by
  have hnumber {s : String} (hs : NumberText s.toList) : lexer.Alike AtStart InCode s s :=
    alike_atStart (alike_plain (plain_token hs.tokenText))
  rw [parts_fragment, parts_fragment, ← h.type]
  refine List.rel_filterMap (fun k k' hk => hk) (h.forall₂_checks (R := fun k k' =>
    Option.Rel (lexer.Alike AtStart InCode) (keyword? p.type k) (keyword? p.type k')) ?_ ?_ ?_)
  · intro _ x _ y _
    exact .some (alike_setting (by decide) (alike_quote x y))
  · intro v hv w hvw
    exact .some (alike_setting (by decide) (alike_default hvw (hp.suits hv)))
  · intro k hpattern hdefault
    cases k with
    | minLength n => exact .some (alike_setting (by decide) (hnumber (numberText_toString _)))
    | maxLength n => exact .some (alike_setting (by decide) (hnumber (numberText_toString _)))
    | pattern x => exact absurd rfl (hpattern x)
    | atLeast x => exact .some (alike_setting (by decide) (hnumber x.numberText_text))
    | atMost x => exact .some (alike_setting (by decide) (hnumber x.numberText_text))
    | default v => exact absurd rfl (hdefault v)
    | email | url | whole | omissible => exact .none

/-- The validators of two parameters. -/
theorem alike_validator [Pattern.SizeLimit] (h : p.SameShape free q) (hp : p.Valid limits) :
    lexer.Alike AtStart InCode (declare p).validator (declare q).validator := by
  have hcomma : lexer.Alike InCode AtStart ", " ", " := alike_of_closesWord (by decide)
  simp only [declare, Fragment.splice, fragment]
  refine Machine.Alike.append (Q := InCode) (Machine.Alike.append (Q := InCode)
    (alike_setting (by decide) (alike_quote _ _)) ?_) (alike_plain (by decide))
  refine Machine.alike_join ?_
  rw [List.forall₂_map_left_iff, List.forall₂_map_right_iff]
  exact (forall₂_parts h hp).imp fun _ _ hpart => hcomma.append hpart

theorem alike_break : lexer.Alike InLine AtStart "\n" "\n" := reads_break.alike reads_break

theorem alike_indentUnit : lexer.Alike AtStart AtStart indentUnit indentUnit :=
  Machine.alike_self (by decide)

/-- Two lines with texts that are read alike. -/
theorem alike_line {depth : Nat} {text text' : String}
    (h : lexer.Alike AtStart InLine text text') (hne : text ≠ "") (hne' : text' ≠ "") :
    lexer.Alike AtStart AtStart (Line.render indentUnit ⟨depth, text⟩)
      (Line.render indentUnit ⟨depth, text'⟩) :=
  Line.alike_render alike_indentUnit alike_break h hne hne'

/-- Two lines of code. -/
theorem alike_codeLine {depth : Nat} {text text' : String}
    (h : lexer.Alike AtStart InCode text text') (hne : text ≠ "") (hne' : text' ≠ "") :
    lexer.Alike AtStart AtStart (Line.render indentUnit ⟨depth, text⟩)
      (Line.render indentUnit ⟨depth, text'⟩) :=
  alike_line (h.mono (fun _ h => h) fun _ => .inl) hne hne'

/-- A line of plain code. -/
theorem alike_plainLine {depth : Nat} {text : String} (h : plain text = true) (hne : text ≠ "") :
    lexer.Alike AtStart AtStart (Line.render indentUnit ⟨depth, text⟩)
      (Line.render indentUnit ⟨depth, text⟩) :=
  alike_codeLine (alike_atStart (alike_plain h)) hne hne

/-- A line without any free text. -/
theorem alike_fixedLine {l : Line} (h : endsLine l.text.toList = true) :
    lexer.Alike AtStart AtStart (Line.render indentUnit l) (Line.render indentUnit l) :=
  Line.alike_fixedLine alike_indentUnit alike_break (.inl ⟨.gap, rfl⟩)
    (inLine_of_endsLine h)

theorem alike_fixedLines {ls : List Line}
    (h : (ls.map fun l => l.text.toList).all endsLine = true) :
    lexer.Alike AtStart AtStart (Line.renderAll indentUnit ls) (Line.renderAll indentUnit ls) := by
  rw [List.all_map, List.all_eq_true] at h
  exact Line.alike_renderAll (List.forall₂_same.mpr fun l hl => alike_fixedLine (h l hl))

/-- A comment line, if something before the free text in it opens the comment. -/
theorem alike_commentLine {depth : Nat} {before body : String} {out : List Mark}
    (hbefore : lexer.run .start before.toList = (.comment, out)) (hbody : Text.OneLine body)
    (hne : before ++ body ≠ "") :
    lexer.Alike AtStart AtStart (Line.render indentUnit ⟨depth, before ++ body⟩)
      (Line.render indentUnit ⟨depth, before ++ body⟩) :=
  have hread := reads_comment hbefore hbody
  alike_line (hread.alike hread) hne hne

/-- The declaration of a parameter in its model. -/
theorem alike_fieldLine [Pattern.SizeLimit] (h : p.SameShape free q) (hp : p.Valid limits) :
    lexer.Alike AtStart AtStart (Line.render indentUnit (fieldLine (declare p)))
      (Line.render indentUnit (fieldLine (declare q))) := by
  have hname : (declare p).name = (declare q).name := h.identifier
  have hid : Text.IsIdentifier (declare p).name := hp.bindable.isIdentifier
  refine alike_codeLine ?_ (by simp) (by simp)
  rw [← hname]
  have hlead := ((alike_plain (plain_name hid)).append (alike_of_closesWord (s := ": ") (by decide))).append
    (alike_typeToken h)
  exact alike_atStart ((hlead.append (alike_of_closesWord (s := " = ") (by decide))).append
    (alike_validator h hp))

/-- The parameter list of a handler. -/
theorem alike_signature [Pattern.SizeLimit] (h : t.SameShape free u) (ht : t.Valid limits) :
    lexer.Alike AtStart InCode (signature (t.declare .python)) (signature (u.declare .python)) := by
  refine Machine.alike_intercalate (alike_of_closesWord (by decide)) (fun _ => AtStart.inCode) ?_
  simp only [Tool.declare, List.forall₂_map_left_iff, List.forall₂_map_right_iff]
  refine (h.forall₂_parameters ht).imp ?_
  rintro p q ⟨hp, hpq⟩
  have hname : (declare p).name = (declare q).name := hpq.identifier
  have hid : Text.IsIdentifier (declare p).name := hp.bindable.isIdentifier
  have hpart := ((alike_plain (plain_name hid)).append (alike_of_closesWord (s := ": ") (by decide))).append
    (alike_typeToken hpq)
  simp only [Language.declare, ← hname]
  exact alike_atStart hpart

/-- The beginning of the comment over a model. -/
theorem run_modelComment :
    lexer.run .start "# Parameter validation model for ".toList = (.comment, []) := by
  rw [String.toList_ofList]
  rfl

/-- The model that validates the input of a tool. -/
theorem alike_modelLines [Pattern.SizeLimit] (h : t.SameShape free u) (ht : t.Valid limits) :
    lexer.Alike AtStart AtStart (Line.renderAll indentUnit (modelLines (t.declare .python)))
      (Line.renderAll indentUnit (modelLines (u.declare .python))) := by
  have hid : Text.IsIdentifier t.identifier := ht.bindable.isIdentifier
  have hname : (u.declare .python).name = t.identifier := h.identifier.symm
  have hclass : plain ("class " ++ (t.identifier ++ "_params") ++ "(BaseModel):") = true := by
    simp only [plain_append, plain_name hid]
    decide
  -- Both models have one name; only the fields hold free text.
  have hhead : lexer.Alike AtStart AtStart
      (Line.renderAll indentUnit (Line.block 0 ["# Parameter validation model for " ++ t.identifier,
        "class " ++ (t.identifier ++ "_params") ++ "(BaseModel):"]))
      (Line.renderAll indentUnit (Line.block 0 ["# Parameter validation model for " ++ t.identifier,
        "class " ++ (t.identifier ++ "_params") ++ "(BaseModel):"])) := by
    refine Line.alike_renderAll_cons (alike_commentLine run_modelComment hid.oneLine (by simp)) ?_
    exact Line.alike_renderAll_cons (alike_plainLine hclass (by simp)) Machine.alike_empty
  have hfields : lexer.Alike AtStart AtStart
      (Line.renderAll indentUnit ((t.declare .python).params.map fieldLine))
      (Line.renderAll indentUnit ((u.declare .python).params.map fieldLine)) := by
    refine Line.alike_renderAll ?_
    simp only [Tool.declare, List.map_map, List.forall₂_map_left_iff, List.forall₂_map_right_iff]
    refine (h.forall₂_parameters ht).imp ?_
    rintro p q ⟨hp, hpq⟩
    exact alike_fieldLine hpq hp
  unfold modelLines modelName
  rw [hname]
  refine Line.alike_renderAll_append (Line.alike_renderAll_append (Line.alike_renderAll_append
    (Line.alike_renderAll_append hhead hfields) ?_) ?_) ?_
  · exact alike_fixedLines (by decide)
  · refine alike_fixedLines ?_
    simp only [Line.block, List.map_cons, List.map_nil]
    repeat rw [String.toList_ofList]
    rfl
  · exact alike_fixedLines (by decide)

/-- The keyword arguments of the model call. -/
theorem alike_argumentLines {names : List String} (h : ∀ n ∈ names, Text.IsIdentifier n) :
    lexer.Alike AtStart AtStart (Line.renderAll indentUnit (argumentLines names))
      (Line.renderAll indentUnit (argumentLines names)) := by
  induction names with
  | nil => exact Machine.alike_empty
  | cons n rest ih =>
    obtain ⟨hn, hrest⟩ := List.forall_mem_cons.mp h
    have hpair : plain (n ++ "=" ++ n) = true := by
      simp only [plain_append, plain_name hn]
      decide
    cases rest with
    | nil => exact Line.alike_renderAll_cons (alike_plainLine hpair (by simp)) Machine.alike_empty
    | cons n' rest =>
      have hcomma : plain (n ++ "=" ++ n ++ ",") = true := by
        simp only [plain_append (n ++ "=" ++ n), hpair]
        decide
      exact Line.alike_renderAll_cons (alike_plainLine hcomma (by simp)) (ih hrest)

/-- The call that validates the input of a tool. -/
theorem alike_validationLines {t : ToolDecl} (ht : Text.IsIdentifier t.name)
    (hp : ∀ n ∈ t.paramNames, Text.IsIdentifier n) :
    lexer.Alike AtStart AtStart (Line.renderAll indentUnit (validationLines t))
      (Line.renderAll indentUnit (validationLines t)) := by
  have hcall : plain ("params = " ++ modelName t ++ "(") = true := by
    simp only [modelName, plain_append, plain_name ht]
    decide
  refine Line.alike_renderAll_append (Line.alike_renderAll_append ?_ (alike_argumentLines hp))
    (alike_fixedLines (by decide))
  refine Line.alike_renderAll_cons (alike_fixedLine ?_)
    (Line.alike_renderAll_cons (alike_plainLine hcall (by simp)) Machine.alike_empty)
  rw [String.toList_ofList]
  rfl

/-- What a handler answers. -/
theorem alike_returnLine {t : ToolDecl} (ht : Text.IsIdentifier t.name)
    (hp : ∀ n ∈ t.paramNames, Text.IsIdentifier n) :
    lexer.Alike AtStart AtStart
      (Line.render indentUnit ⟨1, "return \x7b\"result\": " ++ echo t ++ "\x7d"⟩)
      (Line.render indentUnit ⟨1, "return \x7b\"result\": " ++ echo t ++ "\x7d"⟩) := by
  have hecho : lexer.Alike AtStart AtStart (echo t) (echo t) :=
    Machine.alike_self (by rw [run_echo ht hp])
  have hlead : lexer.Alike AtStart AtStart "return \x7b\"result\": " "return \x7b\"result\": " :=
    Machine.alike_self (by decide)
  refine alike_codeLine ((hlead.append hecho).append ?_) (by simp) (by simp)
  exact alike_atStart (alike_plain (by decide))

/-- The lines of two tools. -/
theorem alike_toolLines [Pattern.SizeLimit] (h : t.SameShape free u) (ht : t.Valid limits) :
    lexer.Alike AtStart AtStart (Line.renderAll indentUnit (toolLines (t.declare .python)))
      (Line.renderAll indentUnit (toolLines (u.declare .python))) := by
  have hid : Text.IsIdentifier (t.declare .python).name := ht.bindable.isIdentifier
  have hids := ht.isIdentifier_paramNames .python
  have hname : (u.declare .python).name = (t.declare .python).name := h.identifier.symm
  have hnames := h.paramNames_declare .python
  have hhas := h.hasParams_declare .python
  -- The call and the answer show names only, which both tools share.
  have hvalidation : validationLines (u.declare .python) = validationLines (t.declare .python) := by
    simp only [validationLines, modelName, hname, hnames]
  have hecho : echo (u.declare .python) = echo (t.declare .python) := by
    simp only [echo, hname, hnames, hhas]
  -- The three lines with the name, the parameter list and the docstring of the handler.
  have hdef : lexer.Alike AtStart InCode
      ("async def " ++ (t.declare .python).name ++ "(" ++ signature (t.declare .python) ++
        ") -> Dict[str, Any]:")
      ("async def " ++ (t.declare .python).name ++ "(" ++ signature (u.declare .python) ++
        ") -> Dict[str, Any]:") := by
    have hlead := ((alike_plain (s := "async def ") (by decide)).append
      (alike_plain (plain_name hid))).append (alike_of_closesWord (s := "(") (by decide))
    exact alike_atStart ((hlead.append (alike_signature h ht)).append (alike_plain (by decide)))
  have hdoc : lexer.Alike AtStart InCode
      ("\"\"\"" ++ Text.docstringBody (t.declare .python).description ++ "\"\"\"")
      ("\"\"\"" ++ Text.docstringBody (u.declare .python).description ++ "\"\"\"") := by
    refine Machine.Alike.mono (Q := AtStart) ?_ (fun _ h => h) fun _ => AtStart.inCode
    exact Machine.alike_of_run (by rw [run_docstring]) (by rw [run_docstring])
      (by rw [run_docstring]) (by rw [run_docstring])
  unfold toolLines
  rw [hhas, hname, hvalidation, hecho]
  refine Line.alike_renderAll_append (Line.alike_renderAll_append (Line.alike_renderAll_append
    (Line.alike_renderAll_append (Line.alike_renderAll_append ?_ ?_) ?_) ?_) ?_) ?_
  · exact alike_fixedLines (by decide)
  · split
    · exact alike_modelLines h ht
    · exact Machine.alike_empty
  · refine Line.alike_renderAll_cons (alike_plainLine (by decide) (by simp)) ?_
    refine Line.alike_renderAll_cons (alike_codeLine hdef (by simp) (by simp)) ?_
    exact Line.alike_renderAll_cons (alike_codeLine hdoc (by simp) (by simp)) Machine.alike_empty
  · split
    · exact alike_validationLines hid hids
    · exact Machine.alike_empty
  · refine alike_fixedLines ?_
    simp only [hintLines, Line.block, List.map_cons, List.map_nil]
    repeat rw [String.toList_ofList]
    decide
  · exact Line.alike_renderAll_cons (alike_returnLine hid hids) Machine.alike_empty

/-- A line of a heading. -/
theorem run_headingLine (body : String) (h : Text.OneLine body) :
    lexer.run .start ("#" ++ body ++ "\n").toList = (.start, [.code '\n']) := by
  have hopen : lexer.run .start "#".toList = (.comment, []) := by decide
  exact run_commented hopen h

/-- The beginning of the comment with the versions. -/
theorem run_versionComment : lexer.run .start "# MCP protocol version ".toList = (.comment, []) := by
  rw [String.toList_ofList]
  rfl

/-- The import of pydantic and the beginning of the comment behind it. -/
theorem run_pydanticComment : lexer.run .start
    "from pydantic import BaseModel, Field, validator  # pip install \"pydantic".toList =
      (.comment, Mark.ofCode "from pydantic import BaseModel, Field, validator  ") := by
  unfold Mark.ofCode
  rw [String.toList_ofList, String.toList_ofList]
  rfl

/-- The lines before the tools, once the heading has been read. -/
theorem alikeBelow_preamble {m n : Module} {settings : Settings} (hs : settings.OneLine) :
    lexer.AlikeBelow .start (.code '\n') (Line.renderAll indentUnit (preamble m settings))
      (Line.renderAll indentUnit (preamble n settings)) := by
  unfold preamble
  refine Line.alikeBelow_append (Line.alikeBelow_append (Line.alikeBelow_append
    (Line.alikeBelow_heading run_headingLine _ _ _ _) ?_) ?_) ?_
  · rw [String.append_assoc, String.append_assoc, String.append_assoc]
    refine Line.alike_renderAll_cons ?_ ?_
    · exact alike_commentLine run_versionComment hs.pythonVersions (by simp)
    iterate 3
      refine Line.alike_renderAll_cons (alike_fixedLine ?_) ?_
      · rw [String.toList_ofList]
        rfl
    refine Line.alike_renderAll_cons ?_ (alike_fixedLines ?_)
    · exact alike_commentLine run_pydanticComment hs.pydantic (by simp)
    · simp only [List.map_cons, List.map_nil]
      repeat rw [String.toList_ofList]
      rfl
  · have hcomma : lexer.Alike InCode InCode "," "," := alike_plain (by decide)
    refine Line.alike_renderAll_cons ?_ (Line.alike_renderAll_cons ?_ (alike_fixedLines ?_))
    · exact alike_codeLine ((alike_setting (by decide) (alike_quote _ _)).append hcomma) (by simp)
        (by simp)
    · exact alike_codeLine ((alike_setting (by decide) (alike_quote _ _)).append hcomma) (by simp)
        (by simp)
    · simp only [List.map_cons, List.map_nil]
      repeat rw [String.toList_ofList]
      rfl
  · exact alike_fixedLines (by decide)

/-- All the lines of two servers. -/
theorem alikeBelow_lines [Pattern.SizeLimit] {a b : Server} (ha : a.Accepted) (h : a.SameShape free b)
    {settings : Settings} (hs : settings.OneLine) :
    lexer.AlikeBelow .start (.code '\n')
      (Line.renderAll indentUnit (lines (a.moduleIn .python) settings))
      (Line.renderAll indentUnit (lines (b.moduleIn .python) settings)) := by
  obtain ⟨limits, ha⟩ := ha.valid
  refine Line.alikeBelow_append (Line.alikeBelow_append (alikeBelow_preamble hs) ?_) ?_
  · simp only [Server.moduleIn, List.flatMap_map]
    refine Line.alike_renderAll_flatMap ((h.forall₂_tools ha).imp fun t u ⟨ht, htu⟩ => ?_)
    exact alike_toolLines htu ht
  · refine alike_fixedLines ?_
    simp only [epilogue, Line.block, List.map_append, List.map_cons, List.map_nil]
    repeat rw [String.toList_ofList]
    rfl

/-- Free text cannot get out of its quotes. Two servers in Python that differ in free text at most, of
which one has been accepted, are generated as sources with the same code: the lexer reads both to the
end of a text, and without comments, blank lines and the text of literals they are equal. -/
theorem emit_python_skeleton_eq [Pattern.SizeLimit] {a b : Server} (hp : a.language = .python)
    (ha : a.Accepted) (h : a.SameShape (fun _ _ => True) b) {settings : Settings} (hs : settings.OneLine) :
    (lex (a.emit settings)).1 = .start ∧ (lex (b.emit settings)).1 = .start ∧
      skeleton (a.emit settings) = skeleton (b.emit settings) := by
  have hemit (s : Server) (hl : s.language = .python) : s.emit settings =
      Line.renderAll indentUnit (lines (s.moduleIn .python) settings) := by
    rw [Server.emit, Server.toModule, hl]
    rfl
  rw [hemit a hp, hemit b (h.language.symm.trans hp)]
  obtain ⟨j, k, out, hj, hk⟩ := alikeBelow_lines ha h hs
  refine ⟨congrArg Prod.fst hj, congrArg Prod.fst hk, ?_⟩
  simp only [skeleton, lex, hj, hk]
  rw [Mark.codeLines_replicate_break rfl, Mark.codeLines_replicate_break rfl]

/-- A text that would end every literal and every comment. -/
theorem emit_python_skeleton_eq_hostile :
    let calm := (Server.saying .python "calm").emit {}
    let hostile := (Server.saying .python "\"\"\"\r\n#\\'\u2028\x7b").emit {}
    (lex calm).1 = .start ∧ (lex hostile).1 = .start ∧ skeleton calm = skeleton hostile :=
  emit_python_skeleton_eq rfl ⟨{}, by rfl⟩ (Server.saying_sameShape .python trivial)
    Settings.oneLine_default

end Scaffold.Python
