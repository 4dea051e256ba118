import Scaffold.Proofs.Text.Quoted
import Scaffold.Proofs.TypeScript.Outline
import Scaffold.Source.TypeScript

/-!
The lines of generated TypeScript as a reader finds them. Every written line is one line for the reader
too, whatever text stands in it, but for a default that is written without quotes: the blanks around it
may end lines, and then nothing but the rest of the default and of its calls stands on the next ones.
-/

namespace Scaffold.TypeScript

/-- Whether no line ends in the text. -/
def unbroken (s : String) : Bool := s.toList.all fun c => !isLineTerminator c

theorem unbroken_append (s t : String) : unbroken (s ++ t) = (unbroken s && unbroken t) := by
  simp only [unbroken, String.toList_append, List.all_append]

/-- A text that stands in source as it is in the generator, with its characters named: evaluating a
string into them is slow. -/
theorem unbroken_literal (cs : List Char) :
    unbroken (String.ofList cs) = cs.all fun c => !isLineTerminator c := by
  rw [unbroken, String.toList_ofList]

theorem unbroken_iff {s : String} :
    unbroken s = true ↔ ∀ c ∈ s.toList, isLineTerminator c = false := by
  simp only [unbroken, List.all_eq_true, Bool.not_eq_true']

theorem unbroken_join {xs : List String} (h : ∀ x ∈ xs, unbroken x = true) :
    unbroken (String.join xs) = true := by
  rw [unbroken_iff, String.toList_join]
  intro c hc
  obtain ⟨x, hx, hc⟩ := List.mem_flatMap.mp hc
  exact unbroken_iff.mp (h x hx) c hc

theorem unbroken_intercalate {sep : String} {xs : List String} (hsep : unbroken sep = true)
    (h : ∀ x ∈ xs, unbroken x = true) : unbroken (sep.intercalate xs) = true := by
  refine unbroken_iff.mpr fun c hc => ?_
  rcases Text.mem_intercalate hc with hc | ⟨x, hx, hc⟩
  · exact unbroken_iff.mp hsep c hc
  · exact unbroken_iff.mp (h x hx) c hc

theorem isLineTerminator_of_isLineEnd {c : Char} (h : Text.isLineEnd c = false) :
    isLineTerminator c = false := by
  obtain ⟨hn, hr, -, -, hwide⟩ := (Text.isLineEnd_eq_false_iff c).mp h
  simp only [Text.isWideLineEnd, Bool.or_eq_false_iff, decide_eq_false_iff_not] at hwide
  simp only [isLineTerminator, beq_eq_false_iff_ne.mpr hn, beq_eq_false_iff_ne.mpr hr,
    beq_eq_false_iff_ne.mpr hwide.1.2, beq_eq_false_iff_ne.mpr hwide.2, Bool.or_self]

theorem unbroken_of_oneLine {s : String} (h : Text.OneLine s) : unbroken s = true :=
  unbroken_iff.mpr fun c hc => isLineTerminator_of_isLineEnd (h c hc)

theorem unbroken_name {n : String} (h : Text.IsIdentifier n) : unbroken n = true :=
  unbroken_of_oneLine h.oneLine

/-- What holds of no line terminator holds of characters within a line only. -/
theorem isLineTerminator_eq_false {p : Char → Bool} {c : Char} (h : p c = true)
    (hp : (['\n', '\r', '\u2028', '\u2029'].all fun d => !p d) = true) : isLineTerminator c = false := by
  by_contra hend
  have hmem : c ∈ ['\n', '\r', '\u2028', '\u2029'] := by
    simpa only [isLineTerminator, Bool.not_eq_false, Bool.or_eq_true, beq_iff_eq, or_assoc,
      List.mem_cons, List.not_mem_nil, or_false] using hend
  have hnot := List.all_eq_true.mp hp c hmem
  rw [h] at hnot
  cases hnot

theorem unbroken_number {s : String} (h : NumberText s.toList) : unbroken s = true :=
  unbroken_iff.mpr fun c hc => isLineTerminator_eq_false (h c hc) (by decide)

theorem isLineTerminator_of_mem_escape {cs : List Char} (h : Text.IsEscape cs) {c : Char}
    (hc : c ∈ cs) : isLineTerminator c = false :=
  isLineTerminator_of_isLineEnd (Text.isLineEnd_of_mem_escape h hc)

theorem unbroken_quote (s : String) : unbroken (Text.quote s) = true :=
  unbroken_of_oneLine (Text.oneLine_quote s)

theorem isLineTerminator_of_mem_regexChar {escaped : Bool} {c d : Char}
    (hd : d ∈ Text.regexChar escaped c) : isLineTerminator d = false := by
  unfold Text.regexChar at hd
  split at hd
  · exact unbroken_iff.mp (unbroken_literal _ : unbroken "\\n" = true) d hd
  split at hd
  · exact unbroken_iff.mp (unbroken_literal _ : unbroken "\\r" = true) d hd
  split at hd
  · exact isLineTerminator_of_mem_escape (Text.isEscape_hexEscape _) hd
  split at hd
  · exact unbroken_iff.mp (unbroken_literal _ : unbroken "\\/" = true) d hd
  · next hn hr hwide _ =>
    simp only [Bool.or_eq_true, decide_eq_true_eq, not_or] at hwide
    rw [List.mem_singleton.mp hd]
    simp only [isLineTerminator, beq_eq_false_iff_ne.mpr hn, beq_eq_false_iff_ne.mpr hr,
      beq_eq_false_iff_ne.mpr hwide.1, beq_eq_false_iff_ne.mpr hwide.2, Bool.or_self]

/-- So is a regular expression. -/
theorem unbroken_regexBody (s : String) : unbroken (Text.regexBody s) = true := by
  have hchars (cs : List Char) (escaped : Bool) :
      ∀ c ∈ Text.regexChars escaped cs, isLineTerminator c = false := by
    induction cs generalizing escaped with
    | nil =>
      intro c hc
      cases escaped with
      | true =>
        rw [List.mem_singleton.mp hc]
        rfl
      | false => cases hc
    | cons c rest ih =>
      intro d hd
      rw [Text.regexChars, List.mem_append] at hd
      exact hd.elim isLineTerminator_of_mem_regexChar (ih _ d)
  rw [unbroken_iff, Text.regexBody, String.toList_ofList]
  exact hchars _ _

theorem unbroken_flatten (s : String) : unbroken (Text.flatten s) = true :=
  unbroken_of_oneLine (Text.oneLine_flatten s)

theorem unbroken_docCommentText {s : String} (h : unbroken s = true) :
    unbroken (Text.docCommentText s) = true := by
  refine unbroken_iff.mpr fun c hc => ?_
  rcases Text.mem_docCommentText hc with hc | rfl
  · exact unbroken_iff.mp h c hc
  · rfl

/-- Whether two texts part before either of them ends. -/
def parts : List Char → List Char → Bool
  | a :: as, b :: bs => a != b || parts as bs
  | _, _ => false

theorem parts_literal (as bs : List Char) :
    parts (String.ofList as).toList (String.ofList bs).toList = parts as bs := by
  rw [String.toList_ofList, String.toList_ofList]

/-- A line that parts from a beginning does not begin so, whatever stands behind it. -/
theorem behind?_eq_none {beginning : String} {cs : List Char}
    (h : parts cs beginning.toList = true) (tail : List Char) :
    behind? beginning (cs ++ tail) = none := by
  have hprefix (as bs : List Char) (h : parts as bs = true) :
      (as ++ tail).dropPrefix? bs = none := by
    induction as generalizing bs with
    | nil => cases h
    | cons a as ih =>
      cases bs with
      | nil => cases h
      | cons b bs =>
        rw [List.cons_append, List.dropPrefix?]
        rw [parts, Bool.or_eq_true, bne_iff_ne] at h
        split
        · next hab => exact ih bs (h.resolve_left fun hne => hne (eq_of_beq hab))
        · rfl
  exact hprefix cs _ h

theorem behind?_append (beginning : String) (rest : List Char) :
    behind? beginning (beginning.toList ++ rest) = some rest :=
  List.dropPrefix?_append_of_beq rest (beq_self_eq_true _)

theorem readLine_handler (rest : List Char) :
    readLine .outside ("  handler: async (".toList ++ rest) =
      (.outside, [.handler (namesIn (rest.takeWhile (· != ')')))]) := by
  have hconst : parts "  handler: async (".toList "const ".toList = true := parts_literal _ _
  have hparameters : parts "  handler: async (".toList "  parameters: \x7b".toList = true := parts_literal _ _
  rw [readLine, outsideLine, behind?_eq_none hconst, behind?_eq_none hparameters, behind?_append]

theorem readLine_parse (rest : List Char) :
    readLine .outside ("    const params = ".toList ++ rest) =
      (.outside, [.parse (word '.' rest) (namesIn rest)]) := by
  have hconst : parts "    const params = ".toList "const ".toList = true := parts_literal _ _
  have hparameters : parts "    const params = ".toList "  parameters: \x7b".toList = true := parts_literal _ _
  have hhandler : parts "    const params = ".toList "  handler: async (".toList = true := parts_literal _ _
  rw [readLine, outsideLine, behind?_eq_none hconst, behind?_eq_none hparameters,
    behind?_eq_none hhandler, behind?_append]

theorem readLine_answer (rest : List Char) :
    readLine .outside ("    return \x7b result: ".toList ++ rest) =
      (.outside, [.answer (Mark.holes (lexer.run .start rest).2)]) := by
  have hconst : parts "    return \x7b result: ".toList "const ".toList = true := parts_literal _ _
  have hparameters : parts "    return \x7b result: ".toList "  parameters: \x7b".toList = true :=
    parts_literal _ _
  have hhandler : parts "    return \x7b result: ".toList "  handler: async (".toList = true := parts_literal _ _
  have hparse : parts "    return \x7b result: ".toList "    const params = ".toList = true := parts_literal _ _
  rw [readLine, outsideLine, behind?_eq_none hconst, behind?_eq_none hparameters,
    behind?_eq_none hhandler, behind?_eq_none hparse, behind?_append]

/-- Whether a line parts from everything that a line outside of schemas and metadata can begin with. -/
def isOther (cs : List Char) : Bool :=
  ["const ", "  parameters: \x7b", "  handler: async (", "    const params = ",
    "    return \x7b result: "].all fun beginning => parts cs beginning.toList

/-- The same beginnings, with their characters named. -/
def openings : List (List Char) := [
  ['c', 'o', 'n', 's', 't', ' '],
  [' ', ' ', 'p', 'a', 'r', 'a', 'm', 'e', 't', 'e', 'r', 's', ':', ' ', '\x7b'],
  [' ', ' ', 'h', 'a', 'n', 'd', 'l', 'e', 'r', ':', ' ', 'a', 's', 'y', 'n', 'c', ' ', '('],
  [' ', ' ', ' ', ' ', 'c', 'o', 'n', 's', 't', ' ', 'p', 'a', 'r', 'a', 'm', 's', ' ', '=', ' '],
  [' ', ' ', ' ', ' ', 'r', 'e', 't', 'u', 'r', 'n', ' ', '\x7b', ' ', 'r', 'e', 's', 'u', 'l', 't', ':', ' ']]

theorem openings_eq : openings = ["const ", "  parameters: \x7b", "  handler: async (",
    "    const params = ", "    return \x7b result: "].map String.toList := by
  simp only [List.map_cons, List.map_nil]
  repeat rw [String.toList_ofList]
  rfl

theorem isOther_eq (cs : List Char) : isOther cs = openings.all (parts cs) := by
  rw [openings_eq, List.all_map]
  rfl

theorem readLine_of_isOther {cs : List Char} (h : isOther cs = true) (tail : List Char) :
    readLine .outside (cs ++ tail) = (.outside, []) := by
  simp only [isOther, List.all_cons, List.all_nil, Bool.and_true, Bool.and_eq_true] at h
  obtain ⟨hconst, hparameters, hhandler, hparse, hanswer⟩ := h
  rw [readLine, outsideLine, behind?_eq_none hconst, behind?_eq_none hparameters,
    behind?_eq_none hhandler, behind?_eq_none hparse, behind?_eq_none hanswer]

theorem behind?_of_not_isPrefixOf {beginning : String} {cs : List Char}
    (h : beginning.toList.isPrefixOf cs = false) : behind? beginning cs = none := by
  cases hbehind : behind? beginning cs with
  | none => rfl
  | some rest =>
    obtain ⟨before, rfl, hbefore⟩ := List.dropPrefix?_eq_some_iff.mp hbehind
    rw [eq_of_beq hbefore, List.isPrefixOf_iff_prefix.mpr (List.prefix_append _ _)] at h
    cases h

/-- A text is cut into its lines. -/
def cutting : Cutting (List Char) where
  Cuts s ls := ∀ rest, sourceLines (s.toList ++ rest) = ls ++ sourceLines rest
  empty := fun _ => rfl
  append := by
    intro s t as bs has hbs rest
    rw [String.toList_append, List.append_assoc, has, hbs, List.append_assoc]

/-- A text declares these items, wherever it stands between lines. -/
abbrev Declares (x y : Place) (s : String) (items : List Item) : Prop :=
  cutting.Tells outliner x y s items

/-- One line. -/
theorem cuts_line {s : String} (h : unbroken s = true) : cutting.Cuts (s ++ "\n") [s.toList] := by
  intro rest
  have htext : (s ++ "\n").toList ++ rest = s.toList ++ '\n' :: rest := by
    rw [String.toList_append, List.append_assoc]
    rfl
  rw [htext, sourceLines, List.splitOnP_append_cons_of_forall_mem (unbroken_iff.mp h) _ rfl]
  rfl

theorem declares_line {s : String} (h : unbroken s = true) (x : Place) :
    Declares x (readLine x s.toList).1 (s ++ "\n") (readLine x s.toList).2 :=
  Cutting.tells_piece (m := outliner) (cuts_line h)

/-- Whether the characters are read as one line that declares nothing. -/
def isIdle (x y : Place) (cs : List Char) : Bool :=
  (cs.all fun c => !isLineTerminator c) && decide (readLine x cs = (y, []))

theorem declares_idleLine {x y : Place} {l : Line}
    (h : isIdle x y (Line.chars indentUnit l.depth l.text.toList) = true) :
    Declares x y (Line.render indentUnit l) [] := by
  simp only [isIdle, Bool.and_eq_true, decide_eq_true_eq] at h
  have hunbroken : unbroken (String.ofList (Line.chars indentUnit l.depth l.text.toList)) = true := by
    rw [unbroken, String.toList_ofList]
    exact h.1
  have hline := declares_line hunbroken x
  rw [String.toList_ofList, h.2] at hline
  rw [Line.render_eq]
  exact hline

theorem declares_idleLines {x : Place} {ls : List Line}
    (h : (ls.map fun l => (l.depth, l.text.toList)).all
      (fun l => isIdle x x (Line.chars indentUnit l.1 l.2)) = true) :
    Declares x x (Line.renderAll indentUnit ls) [] := by
  rw [List.all_map, List.all_eq_true] at h
  exact Cutting.tells_idle fun l hl => declares_idleLine (h l hl)

/-- Whether the characters are one line that begins with nothing that is read outside of schemas and
metadata. -/
def isQuiet (cs : List Char) : Bool :=
  (cs.all fun c => !isLineTerminator c) && openings.all fun opening => !opening.isPrefixOf cs

theorem isIdle_of_isQuiet {cs : List Char} (h : isQuiet cs = true) :
    isIdle .outside .outside cs = true := by
  simp only [isQuiet, openings_eq, List.map_cons, List.map_nil, List.all_cons, List.all_nil,
    Bool.and_true, Bool.and_eq_true, Bool.not_eq_true'] at h
  obtain ⟨hunbroken, hconst, hparameters, hhandler, hparse, hanswer⟩ := h
  have hread : readLine .outside cs = (.outside, []) := by
    rw [readLine, outsideLine, behind?_of_not_isPrefixOf hconst,
      behind?_of_not_isPrefixOf hparameters, behind?_of_not_isPrefixOf hhandler,
      behind?_of_not_isPrefixOf hparse, behind?_of_not_isPrefixOf hanswer]
  rw [isIdle, hunbroken, hread]
  rfl

theorem declares_quietLine {l : Line}
    (h : isQuiet (Line.chars indentUnit l.depth l.text.toList) = true) :
    Declares .outside .outside (Line.render indentUnit l) [] := declares_idleLine (isIdle_of_isQuiet h)

theorem declares_quietLines {ls : List Line}
    (h : (ls.map fun l => (l.depth, l.text.toList)).all
      (fun l => isQuiet (Line.chars indentUnit l.1 l.2)) = true) :
    Declares .outside .outside (Line.renderAll indentUnit ls) [] := by
  rw [List.all_map, List.all_eq_true] at h
  exact Cutting.tells_idle fun l hl => declares_quietLine (h l hl)

/-- A line whose beginning tells that it declares nothing. -/
theorem declares_otherLine {before : List Char} {body : String}
    (hbefore : (before.all fun c => !isLineTerminator c) = true)
    (hother : openings.all (parts before) = true) (hbody : unbroken body = true) :
    Declares .outside .outside (String.ofList before ++ body ++ "\n") [] := by
  have hunbroken : unbroken (String.ofList before ++ body) = true := by
    rw [unbroken_append, unbroken_literal, hbefore, hbody, Bool.and_self]
  have hline := declares_line hunbroken .outside
  have hbeginning : isOther before = true := by rw [isOther_eq, hother]
  rw [String.toList_append, String.toList_ofList, readLine_of_isOther hbeginning] at hline
  exact hline

/-- Whether the text can stand on a line of its own within a schema: it neither makes a member nor ends
the schema. -/
def tame (s : String) : Bool := s.toList.all fun c => c != ':' && c != '\x7d'

theorem tame_literal (cs : List Char) :
    tame (String.ofList cs) = cs.all fun c => c != ':' && c != '\x7d' := by
  rw [tame, String.toList_ofList]

theorem tame_append (s t : String) : tame (s ++ t) = (tame s && tame t) := by
  simp only [tame, String.toList_append, List.all_append]

theorem tame_join {xs : List String} (h : ∀ x ∈ xs, tame x = true) : tame (String.join xs) = true := by
  induction xs with
  | nil => rfl
  | cons x xs ih =>
    obtain ⟨hx, hxs⟩ := List.forall_mem_cons.mp h
    rw [String.join_cons, tame_append, hx, ih hxs]
    rfl

theorem tame_token {s : String} (h : TokenText s.toList) : tame s = true := by
  refine List.all_eq_true.mpr fun c hc => ?_
  have hcolon : c ≠ ':' := h.ne hc (by decide)
  have hbrace : c ≠ '\x7d' := h.ne hc (by decide)
  simp only [Bool.and_eq_true, bne_iff_ne, ne_eq]
  exact ⟨hcolon, hbrace⟩

/-- A word is read back, whatever spaces stand before it. -/
theorem word_name {spaces : List Char} (hspaces : spaces.all (· == ' ') = true) {n : String}
    (hn : Text.IsIdentifier n) {stop : Char} (hstop : Text.isNameChar stop = false)
    {rest : List Char} (hrest : rest.takeWhile (· != stop) = []) :
    word stop (spaces ++ n.toList ++ rest) = n := by
  have hname (c : Char) (hc : c ∈ n.toList) : (c != stop) = true := by
    rw [bne_iff_ne]
    rintro rfl
    rw [hn.isNameChar c hc] at hstop
    cases hstop
  have hdrop : (n.toList ++ rest).dropWhile (· == ' ') = n.toList ++ rest := by
    cases hs : n.toList with
    | nil => exact absurd hs hn.ne_nil
    | cons c cs =>
      have hc : c ≠ ' ' := by
        refine Text.ne_layout_of_isNameChar (hn.isNameChar c ?_) (by decide)
        rw [hs]
        exact List.mem_cons_self
      exact List.dropWhile_cons_of_neg (by simpa using hc)
  rw [word, List.append_assoc, List.dropWhile_append_of_pos (List.all_eq_true.mp hspaces), hdrop,
    List.takeWhile_append_of_pos hname, hrest, List.append_nil, String.ofList_toList]

/-- The beginning of a member. -/
theorem keyOf?_member {spaces : List Char} (hspaces : spaces.all (· == ' ') = true) {n : String}
    (hn : Text.IsIdentifier n) (rest : List Char) :
    keyOf? (spaces ++ n.toList ++ ':' :: rest) = some n := by
  have hcolon : ':' ∈ spaces ++ n.toList ++ ':' :: rest :=
    List.mem_append_right _ List.mem_cons_self
  rw [keyOf?, if_pos hcolon, word_name hspaces hn (by decide) (by simp)]

theorem mem_of_mem_splitOnP {q : Char → Bool} {cs : List Char} :
    ∀ piece ∈ cs.splitOnP q, ∀ c ∈ piece, c ∈ cs := by
  induction cs with
  | nil =>
    intro piece hpiece c hc
    rw [List.splitOnP_nil, List.mem_singleton] at hpiece
    rw [hpiece] at hc
    cases hc
  | cons d rest ih =>
    intro piece hpiece c hc
    rw [List.splitOnP_cons_eq_if_modifyHead] at hpiece
    split at hpiece
    · rcases List.mem_cons.mp hpiece with rfl | hpiece
      · cases hc
      · exact List.mem_cons_of_mem d (ih piece hpiece c hc)
    · obtain ⟨first, pieces, hsplit⟩ := List.exists_cons_of_ne_nil (List.splitOnP_ne_nil q rest)
      rw [hsplit, List.modifyHead_cons] at hpiece
      rcases List.mem_cons.mp hpiece with rfl | hpiece
      · rcases List.mem_cons.mp hc with rfl | hc
        · exact List.mem_cons_self
        · exact List.mem_cons_of_mem d (ih first (by rw [hsplit]; exact List.mem_cons_self) c hc)
      · exact List.mem_cons_of_mem d (ih piece (by rw [hsplit]; exact List.mem_cons_of_mem _ hpiece) c hc)

/-- Characters in front of a text within one line stand on its first line. -/
theorem splitOnP_append {q : Char → Bool} {before cs : List Char} (h : ∀ c ∈ before, q c = false) :
    (before ++ cs).splitOnP q = (cs.splitOnP q).modifyHead (before ++ ·) := by
  induction before with
  | nil =>
    obtain ⟨first, pieces, hsplit⟩ := List.exists_cons_of_ne_nil (List.splitOnP_ne_nil q cs)
    rw [List.nil_append, hsplit, List.modifyHead_cons, List.nil_append]
  | cons c rest ih =>
    obtain ⟨hc, hrest⟩ := List.forall_mem_cons.mp h
    rw [List.cons_append, List.splitOnP_cons_eq_if_modifyHead, hc, ih hrest]
    obtain ⟨first, pieces, hsplit⟩ := List.exists_cons_of_ne_nil (List.splitOnP_ne_nil q cs)
    simp only [hsplit, List.modifyHead_cons, List.cons_append, Bool.false_eq_true, if_false]

/-- A line within a schema that goes on with the member before. -/
theorem readLine_schema_of_tame {line : List Char} (h : ∀ c ∈ line, c ≠ ':' ∧ c ≠ '\x7d') :
    readLine .schema line = (.schema, []) := by
  have hend : behind? "\x7d);" line = none := by
    cases line with
    | nil => rfl
    | cons c rest =>
      have hc : (c == '\x7d') = false := beq_eq_false_iff_ne.mpr (h c List.mem_cons_self).2
      have hfirst : behind? "\x7d);" (c :: rest) =
          if c == '\x7d' then behind? ");" rest else none := rfl
      rw [hfirst, hc]
      rfl
  have hkey : keyOf? line = none := if_neg fun hm => (h ':' hm).1 rfl
  rw [readLine, hend, hkey]
  rfl

/-- The declaration of a key in a schema, line by line. Behind the key the text may go on over several
lines, if none of them can be taken for another key or for the end of the schema. -/
theorem exists_cuts_schemaMember {n : String} (hn : Text.IsIdentifier n) {value : String}
    (hvalue : unbroken value = true ∨ tame value = true) :
    ∃ first pieces, cutting.Cuts (Line.render indentUnit ⟨1, n ++ ": " ++ value ++ ","⟩)
        ((("  " ++ n ++ ": ").toList ++ first) :: pieces) ∧
      ∀ piece ∈ pieces, ∀ c ∈ piece, c ≠ ':' ∧ c ≠ '\x7d' := by
  have htext : Line.render indentUnit ⟨1, n ++ ": " ++ value ++ ","⟩ =
      "  " ++ n ++ ": " ++ (value ++ ",") ++ "\n" := by
    rw [Line.render_one indentUnit (by simp)]
    simp only [indentUnit, String.append_assoc]
  have hlead : unbroken ("  " ++ n ++ ": ") = true := by
    simp only [unbroken_append, unbroken_name hn]
    decide
  rw [htext]
  -- An end of line in the value cuts the member, but no piece behind it has a colon or a brace, so none is
  -- taken for a key or for the end.
  rcases hvalue with hvalue | hvalue
  · have hline := cuts_line (s := "  " ++ n ++ ": " ++ (value ++ ","))
      (by rw [unbroken_append, hlead, unbroken_append, hvalue]; rfl)
    rw [String.toList_append] at hline
    exact ⟨_, [], hline, List.forall_mem_nil _⟩
  · have htame : ∀ c ∈ (value ++ ",").toList, c ≠ ':' ∧ c ≠ '\x7d' := by
      have hall : tame (value ++ ",") = true := by
        rw [tame_append, hvalue]
        rfl
      intro c hc
      simpa only [Bool.and_eq_true, bne_iff_ne, ne_eq] using List.all_eq_true.mp hall c hc
    obtain ⟨first, pieces, hsplit⟩ := List.exists_cons_of_ne_nil
      (List.splitOnP_ne_nil isLineTerminator (value ++ ",").toList)
    refine ⟨first, pieces, fun rest => ?_, fun piece hpiece c hc => ?_⟩
    · have hall : ("  " ++ n ++ ": " ++ (value ++ ",") ++ "\n").toList ++ rest =
          ("  " ++ n ++ ": ").toList ++ (value ++ ",").toList ++ '\n' :: rest := by
        rw [String.toList_append, String.toList_append, List.append_assoc]
        rfl
      rw [hall, sourceLines, List.splitOnP_append_cons _ _ rfl,
        splitOnP_append (unbroken_iff.mp hlead), hsplit]
      rfl
    · refine htame c (mem_of_mem_splitOnP (q := isLineTerminator) piece ?_ c hc)
      rw [hsplit]
      exact List.mem_cons_of_mem first hpiece

theorem declares_schemaMember {n : String} (hn : Text.IsIdentifier n) {value : String}
    (hvalue : unbroken value = true ∨ tame value = true) :
    Declares .schema .schema (Line.render indentUnit ⟨1, n ++ ": " ++ value ++ ","⟩) [.key n] := by
  obtain ⟨first, pieces, hcuts, htame⟩ := exists_cuts_schemaMember hn hvalue
  refine ⟨_, hcuts, ?_⟩
  have hchars : ("  " ++ n ++ ": ").toList ++ first =
      [' ', ' '] ++ n.toList ++ ':' :: (' ' :: first) := by
    simp [String.toList_append]
  have hend : behind? "\x7d);" ([' ', ' '] ++ (n.toList ++ ':' :: (' ' :: first))) = none :=
    behind?_eq_none (by decide) _
  rw [← List.append_assoc] at hend
  have hstep : outliner.step .schema (("  " ++ n ++ ": ").toList ++ first) = (.schema, [.key n]) := by
    change readLine .schema (("  " ++ n ++ ": ").toList ++ first) = _
    rw [hchars, readLine, hend, keyOf?_member (by decide) hn]
    rfl
  have hpieces : outliner.run .schema pieces = (.schema, []) :=
    outliner.run_of_forall_step fun piece hpiece => readLine_schema_of_tame (htame piece hpiece)
  rw [Machine.run_cons, hstep, hpieces]
  rfl

end Scaffold.TypeScript
