import Mathlib.Data.List.Chain
import Mathlib.Data.List.Forall2
import Scaffold.Proofs.Source.Lines
import Scaffold.Proofs.Text.Quoted
import Scaffold.Proofs.Validation.Fields
import Scaffold.Source.Emit

namespace Scaffold

namespace Text

/-- No star is followed by a slash, so the text closes no comment. -/
def Unclosed (s : String) : Prop := s.toList.IsChain fun c d => ¬(c = '*' ∧ d = '/')

instance (s : String) : Decidable (Unclosed s) :=
  inferInstanceAs (Decidable (s.toList.IsChain fun c d => ¬(c = '*' ∧ d = '/')))

theorem unclosed_of_forall {s : String} (h : ∀ c ∈ s.toList, c ≠ '*') : Unclosed s := by
  refine List.isChain_iff_forall_rel_of_append_cons_cons.mpr fun c d before after hs hcd => ?_
  exact h c (by rw [hs]; simp) hcd.1

/-- Two pieces close no comment if they do not meet in a star. -/
theorem Unclosed.append {s t : String} (hs : Unclosed s) (ht : Unclosed t)
    (hmeet : s.toList.getLast? ≠ some '*') : Unclosed (s ++ t) := by
  rw [Unclosed, String.toList_append]
  refine List.isChain_append.mpr ⟨hs, ht, fun c hc d _ h => hmeet ?_⟩
  rwa [h.1] at hc

/-- Whether a mark keeps the pieces on its sides from closing a comment together. -/
def separates (mark : String) : Bool := !mark.isEmpty && mark.toList.all fun c => c != '*' && c != '/'

theorem Unclosed.append_mark {s : String} (hs : Unclosed s) (mark : String) (hmark : separates mark = true) :
    Unclosed (s ++ mark) := by
  simp only [separates, Bool.and_eq_true, List.all_eq_true, bne_iff_ne] at hmark
  have hinside : Unclosed mark := unclosed_of_forall fun c hc => (hmark.2 c hc).1
  rw [Unclosed, String.toList_append]
  refine List.isChain_append.mpr ⟨hs, hinside, fun c _ d hd h => ?_⟩
  exact (hmark.2 d (List.mem_of_mem_head? hd)).2 h.2

theorem Unclosed.append_parted {s t : String} (hs : Unclosed s) (mark : String) (ht : Unclosed t)
    (hmark : separates mark = true) : Unclosed (s ++ mark ++ t) := by
  apply (hs.append_mark mark hmark).append ht
  simp only [separates, Bool.and_eq_true, Bool.not_eq_true', List.all_eq_true, bne_iff_ne] at hmark
  have hne : mark.toList ≠ [] := by
    intro h
    rw [String.toList_eq_nil_iff.mp h] at hmark
    exact absurd hmark.1 (by decide)
  intro hlast
  rw [String.toList_append, List.getLast?_append_of_ne_nil _ hne] at hlast
  exact (hmark.2 '*' (List.mem_of_mem_getLast? hlast)).1 rfl

/-- A documentation comment begins with the character that the text begins with. -/
theorem head?_docCommentChars (cs : List Char) : (docCommentChars cs).head? = cs.head? := by
  cases cs using docCommentChars.induct with
  | case1 => rfl
  | case2 rest => rfl
  | case3 c rest hne => rw [docCommentChars.eq_3 _ _ hne]; rfl

/-- The text in a documentation comment does not close it. -/
theorem unclosed_docCommentText (s : String) : Unclosed (docCommentText s) := by
  have hchars (cs : List Char) : (docCommentChars cs).IsChain fun c d => ¬(c = '*' ∧ d = '/') := by
    induction cs using docCommentChars.induct with
    | case1 => exact .nil
    | case2 rest ih =>
      rw [docCommentChars]
      refine .cons_cons (by decide) (.cons_cons (by decide) (List.isChain_cons.mpr ⟨?_, ih⟩))
      exact fun d _ h => absurd h.1 (by decide)
    | case3 c rest hne ih =>
      rw [docCommentChars.eq_3 _ _ hne]
      refine List.isChain_cons.mpr ⟨fun d hd h => ?_, ih⟩
      -- A slash that follows the star here follows it in the text, where both are escaped.
      rw [head?_docCommentChars, h.2] at hd
      obtain ⟨tail, htail⟩ := List.head?_eq_some_iff.mp hd
      exact hne tail h.1 htail
  rw [Unclosed, docCommentText, String.toList_ofList]
  exact hchars _

/-- The closing mark behind a text that closes no comment is the only one. -/
theorem Unclosed.eq_of_append {body before after : String} (h : Unclosed body)
    (heq : body ++ "*/\n" = before ++ "*/" ++ after) : before = body ∧ after = "\n" := by
  have hchars : body.toList ++ ['*', '/', '\n'] = before.toList ++ '*' :: '/' :: after.toList := by
    have htext := congrArg String.toList heq
    rw [String.toList_append, String.toList_append, String.toList_append, List.append_assoc] at htext
    exact htext
  have hsame (hb : before.toList = body.toList) (ha : after.toList = ['\n']) :
      before = body ∧ after = "\n" := ⟨String.toList_inj.mp hb, String.toList_inj.mp ha⟩
  rcases List.append_eq_append_iff.mp hchars with ⟨gap, hbefore, hgap⟩ | ⟨gap, hbody, hgap⟩
  · match gap with
    | [] =>
      rw [List.append_nil] at hbefore
      exact hsame hbefore (by simpa using hgap.symm)
    | [c] => simp at hgap
    | [c, d] => simp at hgap
    | c :: d :: e :: gap => simp at hgap
  · match gap with
    | [] =>
      rw [List.append_nil] at hbody
      exact hsame hbody.symm (by simpa using hgap)
    | [c] => simp at hgap
    | c :: d :: gap =>
      -- The mark would stand before the end, and nothing there closes the comment.
      obtain ⟨rfl, hrest⟩ := List.cons.inj hgap
      obtain ⟨rfl, -⟩ := List.cons.inj hrest
      exact absurd ⟨rfl, rfl⟩ (List.isChain_iff_forall_rel_of_append_cons_cons.mp h hbody)

end Text

namespace TypeScript

/-- A line that documents a parameter: its type between braces, its name, and behind a dash what there is to
say about it. -/
def Documents (p : Parameter) (line : String) : Prop :=
  ∃ type said, line = " * @param \x7b" ++ type ++ "\x7d " ++ p.identifier ++ said ∧
    (said = "" ∨ ∃ description, said = " - " ++ description)

variable {p : Parameter}

theorem documents_paramTag (p : Parameter) : Documents p (paramTag (declare p)) := by
  unfold paramTag
  dsimp only
  split
  · exact ⟨_, "", by rw [String.append_empty]; rfl, .inl rfl⟩
  · exact ⟨_, _, String.append_assoc, .inr ⟨_, rfl⟩⟩

/-- The type of a parameter is written on one line, for the values of an enum are quoted. -/
theorem oneLine_typeToken (p : Parameter) : Text.OneLine (declare p).typeToken := by
  simp only [declare]
  cases p.alternatives with
  | none => cases p.type <;> exact Text.oneLine_of_all (by decide)
  | some values =>
    refine Text.OneLine.intercalate (Text.oneLine_of_all (by decide)) fun x hx => ?_
    obtain ⟨value, -, rfl⟩ := List.mem_map.mp hx
    exact Text.oneLine_quote value

/-- The line of a parameter is one line. -/
theorem oneLine_paramTag (hp : Text.IsIdentifier p.identifier) : Text.OneLine (paramTag (declare p)) := by
  have hlead : Text.OneLine " * @param \x7b" := Text.oneLine_of_all (by decide)
  have hclose : Text.OneLine "\x7d " := Text.oneLine_of_all (by decide)
  have hdash : Text.OneLine " - " := Text.oneLine_of_all (by decide)
  have htype := (oneLine_typeToken p).docCommentText
  have hdescription := (Text.oneLine_flatten p.description).docCommentText
  have htag := ((hlead.append htype).append hclose).append hp.oneLine
  unfold paramTag
  dsimp only
  split
  · exact htag
  · exact (htag.append hdash).append hdescription

/-- The line of a parameter closes no comment, for what people entered is parted by brackets and blanks. -/
theorem unclosed_paramTag (hp : Text.IsIdentifier p.identifier) : Text.Unclosed (paramTag (declare p)) := by
  have hname : Text.Unclosed p.identifier := by
    apply Text.unclosed_of_forall
    intro c hc
    exact Text.ne_of_isNameChar (hp.isNameChar c hc) (by decide)
  have hlead : Text.Unclosed " * @param \x7b" := by decide
  have htype := hlead.append (Text.unclosed_docCommentText (declare p).typeToken) (by decide)
  have htag := htype.append_parted "\x7d " hname (by decide)
  have hdescription := Text.unclosed_docCommentText (Text.flatten p.description)
  unfold paramTag
  dsimp only
  split
  · exact htag
  · exact htag.append_parted " - " hdescription (by decide)

/-- Lines that close no comment close none together, for they are parted by line feeds. -/
theorem unclosed_block {unit : String} {texts : List String} (h : ∀ text ∈ texts, Text.Unclosed text) :
    Text.Unclosed (Line.renderAll unit (Line.block 0 texts)) := by
  induction texts with
  | nil => exact .nil
  | cons text texts ih =>
    obtain ⟨htext, htexts⟩ := List.forall_mem_cons.mp h
    rw [Line.renderAll_block_cons]
    exact htext.append_parted "\n" (ih htexts) (by decide)

/-- The documentation of a tool as it is written. -/
def docText (t : Tool) : String := Line.renderAll indentUnit (docLines (t.declare .typeScript))

/-- The lines of the documentation before the one that closes it. -/
def openLines (t : Tool) : List String :=
  ["/**", " * " ++ Text.docCommentText (Text.flatten t.description)] ++
    t.parameters.map fun p => paramTag (declare p)

theorem docLines_eq (t : Tool) :
    docLines (t.declare .typeScript) = Line.block 0 (openLines t ++ [" */"]) := by
  simp [docLines, Tool.declare, Language.declare, openLines, Line.block, Function.comp_def]

/-- Each of them is one line and closes no comment. -/
theorem of_mem_openLines {t : Tool} (h : ∀ p ∈ t.parameters, Text.IsIdentifier p.identifier) {line : String}
    (hline : line ∈ openLines t) : Text.OneLine line ∧ Text.Unclosed line := by
  rcases List.mem_append.mp hline with hline | hline
  · rcases List.mem_pair.mp hline with rfl | rfl
    · exact ⟨Text.oneLine_of_all (by decide), by decide⟩
    · have hlead : Text.OneLine " * " := Text.oneLine_of_all (by decide)
      have hopen : Text.Unclosed " * " := by decide
      have hdescription := (Text.oneLine_flatten t.description).docCommentText
      exact ⟨hlead.append hdescription, hopen.append (Text.unclosed_docCommentText _) (by decide)⟩
  · obtain ⟨p, hp, rfl⟩ := List.mem_map.mp hline
    exact ⟨oneLine_paramTag (h p hp), unclosed_paramTag (h p hp)⟩

/-- The documentation of a tool is one comment, whatever its descriptions and its enums are. It is closed at
its end and nowhere else. It consists of a line that opens it, one for the description of the tool, one for
each parameter in their order and one that closes it, each ended by a line feed and by nothing else. -/
theorem docText_closed (t : Tool) (h : ∀ p ∈ t.parameters, Text.IsIdentifier p.identifier) :
    (∃ body, docText t = body ++ "*/\n" ∧
      ∀ before after, docText t = before ++ "*/" ++ after → before = body ∧ after = "\n") ∧
    ∃ lines tags, Text.linesOf (docText t) = lines ++ [""] ∧ lines.length = t.parameters.length + 3 ∧
      (∀ line ∈ lines, Text.OneLine line) ∧
      lines = ["/**", " * " ++ Text.docCommentText (Text.flatten t.description)] ++ tags ++ [" */"] ∧
      List.Forall₂ Documents t.parameters tags := by
  have hlines (line : String) (hline : line ∈ openLines t) := of_mem_openLines h hline
  have hclosing : Text.OneLine " */" := Text.oneLine_of_all (by decide)
  have hall : ∀ line ∈ openLines t ++ [" */"], Text.OneLine line := by
    intro line hline
    rcases List.mem_append.mp hline with hline | hline
    · exact (hlines line hline).1
    · rwa [List.mem_singleton.mp hline]
  have htext : docText t = Line.renderAll indentUnit (Line.block 0 (openLines t)) ++ " " ++ "*/\n" := by
    have hblock : Line.block 0 (openLines t ++ [" */"]) =
        Line.block 0 (openLines t) ++ Line.block 0 [" */"] := List.map_append
    have hend : Line.renderAll indentUnit (Line.block 0 [" */"]) = " " ++ "*/\n" := by decide
    rw [docText, docLines_eq, hblock, Line.renderAll_append, hend, String.append_assoc]
  constructor
  · refine ⟨_, htext, fun before after heq => ?_⟩
    have hopen : Text.Unclosed (Line.renderAll indentUnit (Line.block 0 (openLines t))) :=
      unclosed_block fun line hline => (hlines line hline).2
    exact (hopen.append_mark " " (by decide)).eq_of_append (htext.symm.trans heq)
  · refine ⟨openLines t ++ [" */"], t.parameters.map fun p => paramTag (declare p), ?_, ?_, hall, rfl, ?_⟩
    · have hread := Line.linesOf_block indentUnit hall ""
      rwa [String.append_empty, ← docLines_eq] at hread
    · simp [openLines]
    · rw [List.forall₂_map_right_iff]
      exact List.forall₂_same.mpr fun p _ => documents_paramTag p

/-- Descriptions and values that would close the comment, alone, over a line end or with what stands next to
them. -/
theorem docText_closed_hostile :
    let t : Tool := {
      name := "lookup"
      description := "*/ process.exit() /*\r\n*/"
      parameters := [{
        name := "kind"
        type := .enum
        description := "**/\u2028/ a\x0b*"
        constraints := some { allowed := some ["*/", "a*", "/b", "\n"] } }] }
    (∀ p ∈ t.parameters, Text.IsIdentifier p.identifier) ∧
      Text.linesOf (docText t) = [
        "/**",
        " * *\\/ process.exit() /* *\\/",
        " * @param \x7b\"*\\/\" | \"a*\" | \"/b\" | \"\\n\"\x7d kind - **\\/ / a *",
        " */",
        ""] ∧
      ∀ before after, docText t = before ++ "*/" ++ after → after = "\n" := by
  intro t
  have hnames : ∀ p ∈ t.parameters, Text.IsIdentifier p.identifier := by
    intro p hp
    rw [List.mem_singleton.mp hp]
    exact (Text.isIdentifier_eq_true_iff "kind").mp (by decide +kernel)
  obtain ⟨⟨_, -, hclosed⟩, -⟩ := docText_closed t hnames
  exact ⟨hnames, by decide +kernel, fun before after heq => (hclosed before after heq).2⟩

end TypeScript

end Scaffold
