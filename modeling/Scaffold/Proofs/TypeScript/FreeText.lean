import Scaffold.Pattern.Estimate
import Scaffold.Proofs.Source.FreeText
import Scaffold.Proofs.TypeScript.Reading

/-!
Free text cannot get out of its quotes in generated TypeScript: two servers that differ in free text at
most are read as the same code. A regular expression is the one place that is not covered, so no
parameter that takes text may carry a pattern here.
-/

namespace Scaffold.TypeScript

/-- Both defaults are texts, so that the metadata of a parameter quote them both. -/
def BothText (v w : DefaultValue) : Prop := ∃ x y, v = .string x ∧ w = .string y

/-- No pattern is written as a regular expression for the parameter. -/
def PatternFree (p : Parameter) : Prop :=
  p.type.isStringLike = true → (p.constraints.getD {}).pattern = none

variable {limits : Limits} {p q : Parameter} {t u : Tool}

/-- A piece between fixed code. -/
theorem alike_between {before after x y : String} (hbefore : plain before = true)
    (hafter : plain after = true) (h : lexer.Alike AtStart AtStart x y) :
    lexer.Alike AtStart AtStart (before ++ x ++ after) (before ++ y ++ after) :=
  ((alike_plain hbefore).append h).append (alike_plain hafter)

/-- Several literals with fixed code between them. -/
theorem alike_quoteAll {sep : String} (hsep : plain sep = true) {vs ws : List String}
    (h : vs.length = ws.length) :
    lexer.Alike AtStart AtStart (sep.intercalate (quoteAll vs)) (sep.intercalate (quoteAll ws)) :=
  Machine.alike_intercalate (alike_plain hsep) (fun _ h => h) (forall₂_map_of_length_eq alike_quote h)

theorem alike_literal {v w : DefaultValue} (h : v = w ∨ p.type.isTextual = true ∧ BothText v w)
    (hv : ∃ c, v.Suits c p.type) :
    lexer.Alike AtStart AtStart (v.literal p.type boolText) (w.literal p.type boolText) := by
  obtain ⟨c, hv⟩ := hv
  cases ht : p.type.isTextual with
  | true =>
    simp only [DefaultValue.literal, ht, if_true]
    exact alike_quote _ _
  | false =>
    have hspell (b : Bool) : NumberText (boolText b).toList := by
      cases b <;> exact numberText_of_all (by decide)
    rcases h with rfl | ⟨ht', -⟩
    · exact alike_plain (plain_token (hv.tokenText_literal ht hspell))
    · rw [ht] at ht'
      cases ht'

/-- The calls of two parameters stand one beside the other. -/
theorem forall₂_parts [Pattern.SizeLimit] (h : p.SameShape BothText q) (hp : p.Valid limits)
    (hfree : PatternFree p) :
    List.Forall₂ (lexer.Alike AtStart AtStart) (fragment p).parts (fragment q).parts := by
  have hnumber {s : String} (hs : NumberText s.toList) : lexer.Alike AtStart AtStart s s :=
    alike_plain (plain_token hs.tokenText)
  rw [parts_fragment, parts_fragment, ← h.type, List.forall₂_map_left_iff,
    List.forall₂_map_right_iff]
  -- Patterns and defaults are the constraints that hold free text. The others are the same for both.
  refine h.forall₂_checks ?_ ?_ ?_
  · intro ht x hx
    rw [hfree ht] at hx
    cases hx
  · intro v hv w hvw
    have hliteral := alike_literal hvw (hp.suits hv)
    simp only [call, defaultCall]
    split
    · exact alike_between (by decide) (by decide) hliteral
    · exact alike_between (by decide) (by decide) hliteral
  · intro k hpattern hdefault
    cases k with
    | minLength n => exact alike_between (by decide) (by decide) (hnumber (numberText_toString _))
    | maxLength n => exact alike_between (by decide) (by decide) (hnumber (numberText_toString _))
    | pattern x => exact absurd rfl (hpattern x)
    | atLeast x => exact alike_between (by decide) (by decide) (hnumber x.numberText_text)
    | atMost x => exact alike_between (by decide) (by decide) (hnumber x.numberText_text)
    | default v => exact absurd rfl (hdefault v)
    | email => exact alike_plain (s := ".email()") (by decide)
    | url => exact alike_plain (s := ".url()") (by decide)
    | whole => exact alike_plain (s := ".int()") (by decide)
    | omissible => exact alike_plain (s := ".optional()") (by decide)

theorem plain_baseSchema (type : ParamType) : plain (baseSchema type) = true := by
  cases type <;> decide

/-- The schemas of two parameters. -/
theorem alike_validator [Pattern.SizeLimit] (h : p.SameShape BothText q) (hp : p.Valid limits)
    (hfree : PatternFree p) :
    lexer.Alike AtStart AtStart (declare p).validator (declare q).validator := by
  have ha := h.rel_alternatives
  refine Machine.Alike.append (Q := AtStart) ?_ (Machine.alike_join (forall₂_parts h hp hfree))
  simp only [Fragment.resolve, fragment]
  cases hpa : p.alternatives <;> cases hqa : q.alternatives <;> rw [hpa, hqa] at ha <;> cases ha
  · rw [← h.type]
    exact alike_plain (plain_baseSchema p.type)
  · next hlen => exact alike_between (by decide) (by decide) (alike_quoteAll (by decide) hlen)

/-- Two entries of metadata under one key. -/
def AlikeEntries (e e' : String × String) : Prop :=
  e.1 = e'.1 ∧ plain e.1 = true ∧ lexer.Alike AtStart AtStart e.2 e'.2

theorem alikeEntries {k v w : String} (hk : plain k = true)
    (h : lexer.Alike AtStart AtStart v w) : AlikeEntries (k, v) (k, w) := ⟨rfl, hk, h⟩

theorem alikeEntries_fixed {k v : String} (hk : plain k = true) (hv : plain v = true) :
    AlikeEntries (k, v) (k, v) := alikeEntries hk (alike_plain hv)

theorem alike_echoDefault {type : ParamType} {v w : DefaultValue}
    (h : v = w ∨ type.isTextual = true ∧ BothText v w) :
    lexer.Alike AtStart AtStart (echoDefault v) (echoDefault w) := by
  rcases h with rfl | ⟨-, x, y, rfl, rfl⟩
  · cases v with
    | bool b => cases b <;> exact alike_plain (by decide)
    | number n => exact alike_plain (plain_token n.numberText_text.tokenText)
    | string x => exact alike_quote x x
  · exact alike_quote x y

/-- The constraints of two parameters in their metadata. -/
theorem forall₂_constraintEchoes {type : ParamType} {c d : Constraints}
    (h : c.SameShape BothText type d) :
    List.Forall₂ AlikeEntries (constraintEchoes c) (constraintEchoes d) := by
  have hnumber {s : String} (hs : NumberText s.toList) : plain s = true := plain_token hs.tokenText
  have hbool (b : Bool) : plain (boolText b) = true := by cases b <;> decide
  unfold constraintEchoes
  rw [← h.minLength, ← h.maxLength, ← h.minimum, ← h.maximum, ← h.required]
  refine List.rel_append (List.rel_append (List.rel_append (List.rel_append (List.rel_append
    (List.rel_append (List.rel_append ?_ ?_) ?_) ?_) ?_) ?_) ?_) ?_
  · exact Parameter.forall₂_toList_self fun n =>
      alikeEntries_fixed (by decide) (hnumber (numberText_toString _))
  · exact Parameter.forall₂_toList_self fun n =>
      alikeEntries_fixed (by decide) (hnumber (numberText_toString _))
  · refine Parameter.forall₂_toList (Parameter.rel_of_isSome h.pattern fun _ _ _ _ => trivial)
      fun x y _ => ?_
    exact alikeEntries (by decide) (alike_quote x y)
  · exact Parameter.forall₂_toList_self fun x =>
      alikeEntries_fixed (by decide) (hnumber x.numberText_text)
  · exact Parameter.forall₂_toList_self fun x =>
      alikeEntries_fixed (by decide) (hnumber x.numberText_text)
  · refine Parameter.forall₂_toList h.rel_alternatives fun vs ws hlen => ?_
    exact alikeEntries (by decide)
      (alike_between (by decide) (by decide) (alike_quoteAll (by decide) hlen))
  · refine Parameter.forall₂_toList h.default fun v w hvw => ?_
    exact alikeEntries (by decide) (alike_echoDefault hvw)
  · exact Parameter.forall₂_toList_self fun b => alikeEntries_fixed (by decide) (hbool b)

/-- The metadata of two parameters. -/
theorem alike_metadataEntry (h : p.SameShape BothText q) :
    lexer.Alike AtStart AtStart (metadataEntry (declare p)) (metadataEntry (declare q)) := by
  refine alike_between (by decide) (by decide) (Machine.alike_intercalate (alike_plain (by decide))
    (fun _ h => h) ?_)
  rw [List.forall₂_map_left_iff, List.forall₂_map_right_iff]
  refine List.Forall₂.imp (R := AlikeEntries) ?_ (.cons ?_ (.cons ?_ ?_))
  · rintro ⟨k, v⟩ ⟨k', v'⟩ ⟨hkey, hplain, hv⟩
    cases hkey
    exact ((alike_plain hplain).append (alike_plain (by decide))).append hv
  · exact alikeEntries (by decide) (alike_quote _ _)
  · exact alikeEntries (by decide) (alike_quote _ _)
  · exact forall₂_constraintEchoes h.constraints

/-- The lexer stands where the end of the line takes it back to the start. -/
def InLine (s : LexState) : Prop := s = .start ∨ s = .lineComment []

theorem alike_break : lexer.Alike InLine AtStart "\n" "\n" := by
  have hbreak (s : LexState) (hs : InLine s) :
      lexer.run s "\n".toList = (.start, [.code '\n']) := by
    rcases hs with rfl | rfl <;> decide
  intro s s' hs hs'
  rw [hbreak s hs, hbreak s' hs']
  exact ⟨rfl, rfl, rfl⟩

theorem alike_indentUnit : lexer.Alike AtStart AtStart indentUnit indentUnit :=
  Machine.alike_self (by decide)

/-- Two lines of code. -/
theorem alike_codeLine {depth : Nat} {text text' : String}
    (h : lexer.Alike AtStart AtStart text text') (hne : text ≠ "") (hne' : text' ≠ "") :
    lexer.Alike AtStart AtStart (Line.render indentUnit ⟨depth, text⟩)
      (Line.render indentUnit ⟨depth, text'⟩) :=
  Line.alike_render alike_indentUnit (alike_break.mono (fun _ => .inl) fun _ h => h) h hne hne'

/-- A line of plain code. -/
theorem alike_plainLine {depth : Nat} {text : String} (h : plain text = true) (hne : text ≠ "") :
    lexer.Alike AtStart AtStart (Line.render indentUnit ⟨depth, text⟩)
      (Line.render indentUnit ⟨depth, text⟩) :=
  alike_codeLine (alike_plain h) hne hne

/-- Whether a text from the start leads to where the line can end. -/
def endsLine (cs : List Char) : Bool :=
  decide ((lexer.run .start cs).1 = .start) || decide ((lexer.run .start cs).1 = .lineComment [])

/-- A line without any free text. -/
theorem alike_fixedLine {l : Line} (h : endsLine l.text.toList = true) :
    lexer.Alike AtStart AtStart (Line.render indentUnit l) (Line.render indentUnit l) := by
  simp only [endsLine, Bool.or_eq_true, decide_eq_true_eq] at h
  exact Line.alike_fixedLine alike_indentUnit alike_break (.inl rfl) h

theorem alike_fixedLines {ls : List Line}
    (h : (ls.map fun l => l.text.toList).all endsLine = true) :
    lexer.Alike AtStart AtStart (Line.renderAll indentUnit ls) (Line.renderAll indentUnit ls) := by
  rw [List.all_map, List.all_eq_true] at h
  exact Line.alike_renderAll (List.forall₂_same.mpr fun l hl => alike_fixedLine (h l hl))

/-- A comment line, if something before the free text in it opens the comment. -/
theorem alike_commentLine {depth : Nat} {before body : String}
    (hbefore : (lexer.run .start before.toList).1 = .lineComment []) (hbody : Text.OneLine body)
    (hne : before ++ body ≠ "") :
    lexer.Alike AtStart AtStart (Line.render indentUnit ⟨depth, before ++ body⟩)
      (Line.render indentUnit ⟨depth, before ++ body⟩) := by
  refine Line.alike_render alike_indentUnit alike_break (Machine.alike_self (.inr ?_)) hne hne
  rw [String.toList_append, Machine.run_append, hbefore, run_lineComment hbody]

theorem reads_break : lexer.Reads InComment AwayFromStar "\n" [] :=
  reads_inComment (by decide) (by decide)

/-- A name in a comment leaves nothing. -/
theorem reads_name {n : String} (h : Text.IsIdentifier n) :
    lexer.Reads InComment AwayFromStar n [] := by
  refine reads_inComment (List.all_eq_true.mpr fun c hc => ?_) h.ne_nil
  obtain ⟨-, -, hslash, hstar, -⟩ := special_of_isNameChar (h.isNameChar c hc)
  simp only [Bool.and_eq_true, bne_iff_ne, ne_eq]
  exact ⟨hslash, hstar⟩

theorem inComment_of_awayFromStar {s : LexState} (h : AwayFromStar s) : InComment s := ⟨false, h⟩

/-- The lead of each line of a documentation comment: a star and a space. -/
theorem reads_lead : lexer.Reads AwayFromStar AwayFromStar " * " [] := by
  rintro _ rfl
  decide

/-- The line of a parameter. -/
theorem reads_paramTag {p : ParamDecl} (h : Text.IsIdentifier p.name) :
    lexer.Reads AwayFromStar InComment (paramTag p) [] := by
  have hlead : lexer.Reads AwayFromStar AwayFromStar " * @param \x7b" [] := by
    rintro _ rfl
    decide
  have hclose : lexer.Reads InComment AwayFromStar "\x7d " [] :=
    reads_inComment (by decide) (by decide)
  have hdash : lexer.Reads InComment AwayFromStar " - " [] :=
    reads_inComment (by decide) (by decide)
  have hname : lexer.Reads AwayFromStar InComment p.name [] :=
    (reads_name h).mono (fun _ => inComment_of_awayFromStar) fun _ => inComment_of_awayFromStar
  have htag := ((hlead.append (reads_docCommentText p.typeToken)).append hclose).append hname
  unfold paramTag
  dsimp only
  split
  · exact htag
  · exact (htag.append hdash).append (reads_docCommentText _)

/-- The documentation of two tools. -/
theorem alike_docLines {t u : ToolDecl} (ht : ∀ n ∈ t.paramNames, Text.IsIdentifier n)
    (hu : ∀ n ∈ u.paramNames, Text.IsIdentifier n) :
    lexer.Alike AtStart AtStart (Line.renderAll indentUnit (docLines t))
      (Line.renderAll indentUnit (docLines u)) := by
  have hopen : lexer.Reads AtStart AwayFromStar (Line.render indentUnit ⟨0, "/**"⟩) [] := by
    rintro _ rfl
    decide
  have hbody (t : ToolDecl) (ht : ∀ n ∈ t.paramNames, Text.IsIdentifier n) :
      lexer.Reads AtStart AwayFromStar (Line.render indentUnit ⟨0, "/**"⟩ ++
        Line.render indentUnit ⟨0, " * " ++ Text.docCommentText (Text.flatten t.description)⟩ ++
        Line.renderAll indentUnit (t.params.map fun p => ⟨0, paramTag p⟩)) [] := by
    have hfirst : lexer.Reads AwayFromStar AwayFromStar (Line.render indentUnit
        ⟨0, " * " ++ Text.docCommentText (Text.flatten t.description)⟩) [] := by
      rw [Line.render_zero]
      exact (reads_lead.append (reads_docCommentText _)).append reads_break
    have hparams : lexer.Reads AwayFromStar AwayFromStar
        (Line.renderAll indentUnit (t.params.map fun p => ⟨0, paramTag p⟩)) [] := by
      refine Machine.reads_join_nil fun a ha => ?_
      simp only [List.map_map, List.mem_map, Function.comp_apply] at ha
      obtain ⟨p, hp, rfl⟩ := ha
      rw [Line.render_zero]
      exact (reads_paramTag (ht _ (List.mem_map_of_mem hp))).append reads_break
    exact (hopen.append hfirst).append hparams
  have hclose : lexer.Alike AwayFromStar AtStart (Line.render indentUnit ⟨0, " */"⟩)
      (Line.render indentUnit ⟨0, " */"⟩) := Machine.alike_self (by decide)
  have hlines (t : ToolDecl) : Line.renderAll indentUnit (docLines t) =
      Line.render indentUnit ⟨0, "/**"⟩ ++
        Line.render indentUnit ⟨0, " * " ++ Text.docCommentText (Text.flatten t.description)⟩ ++
        Line.renderAll indentUnit (t.params.map fun p => ⟨0, paramTag p⟩) ++
        Line.render indentUnit ⟨0, " */"⟩ := by
    unfold docLines
    rw [Line.renderAll_append, Line.renderAll_append]
    simp only [Line.renderAll, List.map_cons, List.map_nil, String.join_cons, String.join_nil,
      String.append_empty]
  -- The comments may differ in length, so they are compared once they are closed and not line by line.
  rw [hlines t, hlines u]
  exact ((hbody t ht).alike (hbody u hu)).append hclose

/-- A line with the name of a parameter and an expression. -/
theorem alike_entryLine [Pattern.SizeLimit] {depth : Nat} {x y : String} (hp : p.Valid limits)
    (h : p.SameShape BothText q) (hxy : lexer.Alike AtStart AtStart x y) :
    lexer.Alike AtStart AtStart
      (Line.render indentUnit ⟨depth, (declare p).name ++ ": " ++ x ++ ","⟩)
      (Line.render indentUnit ⟨depth, (declare q).name ++ ": " ++ y ++ ","⟩) := by
  have hname : (declare q).name = (declare p).name := h.identifier.symm
  have hid : Text.IsIdentifier (declare p).name := hp.bindable.isIdentifier
  have hkey : plain ((declare p).name ++ ": ") = true := by
    rw [plain_append, plain_name hid]
    decide
  rw [hname]
  exact alike_codeLine (alike_between hkey (by decide) hxy) (by simp) (by simp)

/-- The schema that validates the input of a tool. -/
theorem alike_schemaLines [Pattern.SizeLimit] (h : t.SameShape BothText u) (ht : t.Valid limits)
    (hfree : ∀ p ∈ t.parameters, PatternFree p) :
    lexer.Alike AtStart AtStart (Line.renderAll indentUnit (schemaLines (t.declare .typeScript)))
      (Line.renderAll indentUnit (schemaLines (u.declare .typeScript))) := by
  have hid : Text.IsIdentifier t.identifier := ht.bindable.isIdentifier
  have hname : (u.declare .typeScript).name = t.identifier := h.identifier.symm
  have hname' : (t.declare .typeScript).name = t.identifier := rfl
  have hconst : plain ("const " ++ (t.identifier ++ "_schema") ++ " = z.object(\x7b") = true := by
    simp only [plain_append, plain_name hid]
    decide
  unfold schemaLines schemaName
  rw [hname, hname']
  refine Line.alike_renderAll_append (Line.alike_renderAll_append ?_ ?_)
    (alike_fixedLines (by decide))
  · refine Line.alike_renderAll_cons (alike_commentLine ?_ hid.oneLine (by simp)) ?_
    · rw [String.toList_ofList]
      decide
    · exact Line.alike_renderAll_cons (alike_plainLine hconst (by simp)) Machine.alike_empty
  · refine Line.alike_renderAll ?_
    simp only [Tool.declare, List.map_map, List.forall₂_map_left_iff, List.forall₂_map_right_iff]
    refine ((List.forall₂_and_left _ _).mpr ⟨hfree, h.forall₂_parameters ht⟩).imp ?_
    rintro p q ⟨hp, hvalid, hpq⟩
    exact alike_entryLine hvalid hpq (alike_validator hpq hvalid hp)

/-- The names that a handler takes out of its input are plain code. -/
theorem plain_signature {t : ToolDecl} (h : ∀ n ∈ t.paramNames, Text.IsIdentifier n) :
    plain (signature t) = true := by
  unfold signature
  generalize t.paramNames = names at h
  induction names with
  | nil => decide
  | cons n rest ih =>
    obtain ⟨hn, hrest⟩ := List.forall_mem_cons.mp h
    cases rest with
    | nil => simpa only [String.intercalate_singleton] using plain_name hn
    | cons n' rest =>
      rw [String.intercalate_cons_cons, plain_append, plain_append, plain_name hn, ih hrest]
      decide

/-- The metadata and the heads of two handlers. -/
theorem alike_handlerHead [Pattern.SizeLimit] (h : t.SameShape BothText u) (ht : t.Valid limits) :
    lexer.Alike AtStart AtStart (Line.renderAll indentUnit (handlerHead (t.declare .typeScript)))
      (Line.renderAll indentUnit (handlerHead (u.declare .typeScript))) := by
  have hids := ht.isIdentifier_paramNames .typeScript
  have hnames := h.paramNames_declare .typeScript
  have hhas := h.hasParams_declare .typeScript
  have hsignature : signature (u.declare .typeScript) = signature (t.declare .typeScript) :=
    congrArg (", ".intercalate ·) hnames
  have hschema : schemaName (u.declare .typeScript) = schemaName (t.declare .typeScript) :=
    congrArg (· ++ "_schema") h.identifier.symm
  -- Only the metadata hold free text; what the handler takes and parses are names.
  have hhandler : plain ("handler: async (\x7b " ++ signature (t.declare .typeScript) ++
      " \x7d) => \x7b") = true := by
    simp only [plain_append, plain_signature hids]
    decide
  have hparse : plain ("const params = " ++ schemaName (t.declare .typeScript) ++ ".parse(\x7b " ++
      signature (t.declare .typeScript) ++ " \x7d);") = true := by
    have hid : Text.IsIdentifier (t.declare .typeScript).name := ht.bindable.isIdentifier
    simp only [schemaName, plain_append, plain_signature hids, plain_name hid]
    decide
  unfold handlerHead
  rw [hhas, hsignature, hschema]
  split
  · refine Line.alike_renderAll_append (Line.alike_renderAll_append (alike_fixedLines (by decide)) ?_)
      ?_
    · refine Line.alike_renderAll ?_
      simp only [Tool.declare, List.map_map, List.forall₂_map_left_iff, List.forall₂_map_right_iff]
      refine (h.forall₂_parameters ht).imp ?_
      rintro p q ⟨hvalid, hpq⟩
      exact alike_entryLine hvalid hpq (alike_metadataEntry hpq)
    · refine Line.alike_renderAll_cons (alike_plainLine (by decide) (by simp)) ?_
      refine Line.alike_renderAll_cons (alike_plainLine hhandler (by simp)) ?_
      refine Line.alike_renderAll_cons (alike_fixedLine (by decide)) ?_
      exact Line.alike_renderAll_cons (alike_plainLine hparse (by simp))
        (alike_fixedLines (by decide))
  · exact alike_fixedLines (by decide)

/-- What a handler answers. -/
theorem alike_returnLine {t : ToolDecl} (ht : Text.IsIdentifier t.name)
    (hp : ∀ n ∈ t.paramNames, Text.IsIdentifier n) :
    lexer.Alike AtStart AtStart
      (Line.render indentUnit ⟨2, "return \x7b result: " ++ echo t ++ " \x7d;"⟩)
      (Line.render indentUnit ⟨2, "return \x7b result: " ++ echo t ++ " \x7d;"⟩) :=
  alike_codeLine (alike_between (by decide) (by decide) (alike_echo ht hp)) (by simp) (by simp)

/-- The lines of two tools. -/
theorem alike_toolLines [Pattern.SizeLimit] (h : t.SameShape BothText u) (ht : t.Valid limits)
    (hfree : ∀ p ∈ t.parameters, PatternFree p) :
    lexer.Alike AtStart AtStart (Line.renderAll indentUnit (toolLines (t.declare .typeScript)))
      (Line.renderAll indentUnit (toolLines (u.declare .typeScript))) := by
  have hid : Text.IsIdentifier (t.declare .typeScript).name := ht.bindable.isIdentifier
  have hids := ht.isIdentifier_paramNames .typeScript
  have hname : (u.declare .typeScript).name = (t.declare .typeScript).name := h.identifier.symm
  have hnames := h.paramNames_declare .typeScript
  have hhas := h.hasParams_declare .typeScript
  have hecho : echo (u.declare .typeScript) = echo (t.declare .typeScript) := by
    simp only [echo, hname, hnames, hhas]
  unfold toolLines
  rw [hhas, hname, hecho]
  refine Line.alike_renderAll_append (Line.alike_renderAll_append (Line.alike_renderAll_append
    (Line.alike_renderAll_append (Line.alike_renderAll_append (Line.alike_renderAll_append
      ?_ ?_) ?_) ?_) ?_) ?_) ?_
  · exact alike_fixedLines (by decide)
  · split
    · exact alike_schemaLines h ht hfree
    · exact Machine.alike_empty
  · exact alike_docLines hids (hnames ▸ hids)
  · refine Line.alike_renderAll_cons (alike_plainLine (by decide) (by simp)) ?_
    refine Line.alike_renderAll_cons ?_ (Line.alike_renderAll_cons ?_ Machine.alike_empty)
    · exact alike_codeLine (alike_between (by decide) (by decide) (alike_quote _ _)) (by simp)
        (by simp)
    · exact alike_codeLine (alike_between (by decide) (by decide) (alike_quote _ _)) (by simp)
        (by simp)
  · exact alike_handlerHead h ht
  · refine alike_fixedLines ?_
    simp only [hintLines, Line.block, List.map_cons, List.map_nil]
    repeat rw [String.toList_ofList]
    decide
  · exact Line.alike_renderAll_cons (alike_returnLine hid hids) (alike_fixedLines (by decide))

/-- The lines before the tools, once the heading has been read. -/
theorem alikeBelow_preamble {m n : Module} {settings : Settings} (hs : settings.OneLine) :
    lexer.AlikeBelow .start (.code '\n') (Line.renderAll indentUnit (preamble m settings))
      (Line.renderAll indentUnit (preamble n settings)) := by
  unfold preamble
  refine Line.alikeBelow_append (Line.alikeBelow_append (Line.alikeBelow_append
    (Line.alikeBelow_heading run_commentLine _ _ _ _) ?_) ?_) ?_
  · rw [String.append_assoc, String.append_assoc, String.append_assoc, String.append_assoc]
    refine Line.alike_renderAll_cons ?_ (alike_fixedLines ?_)
    · refine alike_commentLine ?_ hs.typeScriptVersions (by simp)
      rw [String.toList_ofList]
      decide
    · simp only [List.map_cons, List.map_nil]
      repeat rw [String.toList_ofList]
      decide
  · refine Line.alike_renderAll_cons ?_ (Line.alike_renderAll_cons ?_ (alike_fixedLines ?_))
    · exact alike_codeLine (alike_between (by decide) (by decide) (alike_quote _ _)) (by simp)
        (by simp)
    · exact alike_codeLine (alike_between (by decide) (by decide) (alike_quote _ _)) (by simp)
        (by simp)
    · simp only [List.map_cons, List.map_nil]
      repeat rw [String.toList_ofList]
      decide
  · exact alike_fixedLines (by decide)

/-- All the lines of two servers. -/
theorem alikeBelow_lines [Pattern.SizeLimit] {a b : Server} (ha : a.Accepted) (h : a.SameShape BothText b)
    (hfree : ∀ t ∈ a.tools, ∀ p ∈ t.parameters, PatternFree p) {settings : Settings}
    (hs : settings.OneLine) :
    lexer.AlikeBelow .start (.code '\n')
      (Line.renderAll indentUnit (lines (a.moduleIn .typeScript) settings))
      (Line.renderAll indentUnit (lines (b.moduleIn .typeScript) settings)) := by
  obtain ⟨limits, ha⟩ := ha.valid
  refine Line.alikeBelow_append (Line.alikeBelow_append (alikeBelow_preamble hs) ?_) ?_
  · simp only [Server.moduleIn, List.flatMap_map]
    refine Line.alike_renderAll_flatMap (((List.forall₂_and_left _ _).mpr
      ⟨hfree, h.forall₂_tools ha⟩).imp fun t u ⟨hfree, ht, htu⟩ => ?_)
    exact alike_toolLines htu ht hfree
  · refine alike_fixedLines ?_
    simp only [epilogue, Line.block, List.map_append, List.map_cons, List.map_nil]
    repeat rw [String.toList_ofList]
    decide

/-- Free text cannot get out of its quotes. Two servers in TypeScript that differ in free text at most,
of which one has been accepted and has no pattern on a parameter that takes text, are generated as
sources with the same code: the lexer reads both to the end of a text, and without comments, blank
lines and the text of literals they are equal. -/
theorem emit_typeScript_skeleton_eq [Pattern.SizeLimit] {a b : Server} (hl : a.language = .typeScript)
    (ha : a.Accepted) (hfree : ∀ t ∈ a.tools, ∀ p ∈ t.parameters, PatternFree p) (h : a.SameShape BothText b)
    {settings : Settings} (hs : settings.OneLine) :
    (lex (a.emit settings)).1 = .start ∧ (lex (b.emit settings)).1 = .start ∧
      skeleton (a.emit settings) = skeleton (b.emit settings) := by
  have hemit (s : Server) (hl : s.language = .typeScript) : s.emit settings =
      Line.renderAll indentUnit (lines (s.moduleIn .typeScript) settings) := by
    rw [Server.emit, Server.toModule, hl]
    rfl
  rw [hemit a hl, hemit b (h.language.symm.trans hl)]
  obtain ⟨j, k, out, hj, hk⟩ := alikeBelow_lines ha h hfree hs
  refine ⟨congrArg Prod.fst hj, congrArg Prod.fst hk, ?_⟩
  simp only [skeleton, lex, hj, hk]
  rw [Mark.codeLines_replicate_break rfl, Mark.codeLines_replicate_break rfl]

/-- A text that would end every literal and every comment. -/
theorem emit_typeScript_skeleton_eq_hostile :
    let calm := (Server.saying .typeScript "calm").emit {}
    let hostile := (Server.saying .typeScript "*/\"\x60$\x7b\r\n//\\'\u2028\x7d").emit {}
    (lex calm).1 = .start ∧ (lex hostile).1 = .start ∧ skeleton calm = skeleton hostile :=
  emit_typeScript_skeleton_eq rfl ⟨{}, by decide +kernel⟩
    (by
      simp only [Server.saying, List.forall_mem_cons, List.not_mem_nil, false_imp_iff, implies_true,
        and_true]
      exact ⟨fun _ => rfl, fun _ => rfl⟩)
    (Server.saying_sameShape .typeScript ⟨_, _, rfl, rfl⟩) Settings.oneLine_default

end Scaffold.TypeScript
