import Scaffold.Proofs.Source.Alike
import Scaffold.Proofs.Text.Quoted
import Scaffold.Proofs.TypeScript.Lexer
import Scaffold.Source.TypeScript

namespace Scaffold.TypeScript

open Text (isNameChar isInert IsEscape)

/-- The lexer stands where a text begins. -/
abbrev AtStart (s : LexState) : Prop := s = .start

/-- Whether a character is code wherever it stands in code. -/
def isPlain (c : Char) : Bool := c != '"' && c != '\x60' && c != '/'

/-- Whether a text is plain code. -/
def plain (s : String) : Bool := s.toList.all isPlain

theorem plain_append (s t : String) : plain (s ++ t) = (plain s && plain t) := by
  simp only [plain, String.toList_append, List.all_append]

theorem run_plain {cs : List Char} (h : cs.all isPlain = true) :
    lexer.run .start cs = (.start, cs.map .code) := by
  induction cs with
  | nil => rfl
  | cons c rest ih =>
    rw [List.all_cons, Bool.and_eq_true] at h
    obtain ⟨hc, hrest⟩ := h
    simp only [isPlain, Bool.and_eq_true, bne_iff_ne, ne_eq] at hc
    have hstep : lexer.step .start c = (.start, [.code c]) := by
      simp only [lexer, LexState.start, lexStep, codeStep, hc.1.1, hc.1.2, hc.2, if_false]
    rw [Machine.run_cons, hstep, ih hrest]
    rfl

/-- Plain code is read like itself. -/
theorem alike_plain {s : String} (h : plain s = true) : lexer.Alike AtStart AtStart s s :=
  Machine.alike_self (by rw [run_plain h])

/-- The characters that begin a literal, a comment or a substitution stand in no name. -/
theorem special_of_isNameChar {c : Char} (h : isNameChar c = true) :
    c ≠ '"' ∧ c ≠ '\x60' ∧ c ≠ '/' ∧ c ≠ '*' ∧ c ≠ '\\' ∧ c ≠ '$' ∧ c ≠ '\x7b' ∧ c ≠ '\x7d' := by
  have hne (d : Char) (hd : d ∈ Text.punctuation) : c ≠ d := Text.ne_of_isNameChar h hd
  exact ⟨hne _ (by decide), hne _ (by decide), hne _ (by decide), hne _ (by decide),
    hne _ (by decide), hne _ (by decide), hne _ (by decide), hne _ (by decide)⟩

/-- A name is plain code. -/
theorem plain_name {n : String} (h : Text.IsIdentifier n) : plain n = true := by
  refine List.all_eq_true.mpr fun c hc => ?_
  obtain ⟨hquote, htick, hslash, -⟩ := special_of_isNameChar (h.isNameChar c hc)
  simp only [isPlain, Bool.and_eq_true, bne_iff_ne, ne_eq]
  exact ⟨⟨hquote, htick⟩, hslash⟩

/-- So is a number, and a default without quotes. -/
theorem plain_token {s : String} (h : TokenText s.toList) : plain s = true := by
  refine List.all_eq_true.mpr fun c hc => ?_
  simp only [isPlain, Bool.and_eq_true, bne_iff_ne, ne_eq]
  exact ⟨⟨h.ne hc (by decide), h.ne hc (by decide)⟩, h.ne hc (by decide)⟩

theorem stringStep_of_isInert {c : Char} (h : isInert c = true) :
    lexer.step (.string []) c = (.string [], []) := by
  obtain ⟨hquote, hslash, hend⟩ := (Text.isInert_iff c).mp h
  obtain ⟨hn, hr, -⟩ := (Text.isLineEnd_eq_false_iff c).mp hend
  simp only [lexer, lexStep, hquote, hslash, hn, hr, or_self, if_false]

theorem run_string_sourceChar (c : Char) :
    lexer.run (.string []) (Text.sourceChar c) = (.string [], []) := by
  rcases Text.sourceChar_cases c with ⟨hc, hi⟩ | ⟨e, rest, he, -, hrest⟩
  · rw [hc]
    exact lexer.run_cons_of_step (stringStep_of_isInert hi) []
  · rw [he, lexer.run_cons_of_step (t := .stringEscape []) rfl,
      lexer.run_cons_of_step (t := .string []) rfl]
    exact lexer.run_of_forall_step fun d hd => stringStep_of_isInert (hrest d hd)

/-- A string literal leaves one mark. -/
theorem run_quote (s : String) : lexer.run .start (Text.quote s).toList = (.start, [.text]) := by
  have hopen : lexer.run .start ['"'] = (.string [], [.text]) := by decide
  have hbody : lexer.run (.string []) (s.toList.flatMap Text.sourceChar) = (.string [], []) :=
    lexer.run_flatMap_of_run fun c _ => run_string_sourceChar c
  have hclose : lexer.run (.string []) ['"'] = (.start, []) := by decide
  rw [Text.quote, String.toList_ofList]
  exact lexer.run_append_of_run hopen (lexer.run_append_of_run hbody hclose)

/-- No string literal can be told from another. -/
theorem alike_quote (s t : String) : lexer.Alike AtStart AtStart (Text.quote s) (Text.quote t) :=
  Machine.alike_of_run (by rw [run_quote]) (by rw [run_quote]) (by rw [run_quote])
    (by rw [run_quote])

theorem run_lineComment {body : String} (h : Text.OneLine body) :
    lexer.run (.lineComment []) body.toList = (.lineComment [], []) := by
  refine lexer.run_of_forall_step fun c hc => ?_
  obtain ⟨hn, hr, -, -, hwide⟩ := (Text.isLineEnd_eq_false_iff c).mp (h c hc)
  have hends : isLineTerminator c = false := by
    simp only [Text.isWideLineEnd, Bool.or_eq_false_iff, decide_eq_false_iff_not] at hwide
    simp only [isLineTerminator, beq_eq_false_iff_ne.mpr hn, beq_eq_false_iff_ne.mpr hr,
      beq_eq_false_iff_ne.mpr hwide.1.2, beq_eq_false_iff_ne.mpr hwide.2, Bool.or_self]
  simp only [lexer, lexStep, hends, Bool.false_eq_true, if_false]

/-- A line that is a comment leaves its end. -/
theorem run_commentLine (body : String) (h : Text.OneLine body) :
    lexer.run .start ("//" ++ body ++ "\n").toList = (.start, [.code '\n']) := by
  have hopen : lexer.run .start "//".toList = (.lineComment [], []) := by decide
  have hclose : lexer.run (.lineComment []) "\n".toList = (.start, [.code '\n']) := by decide
  rw [String.toList_append, String.toList_append]
  exact lexer.run_append_of_run (lexer.run_append_of_run hopen (run_lineComment h)) hclose

/-- The lexer stands in a comment between `/*` and `*/`. -/
def InComment (s : LexState) : Prop := ∃ star, s = .blockComment [] star

/-- It does not stand behind a star there, so a slash does not close the comment. -/
abbrev AwayFromStar (s : LexState) : Prop := s = .blockComment [] false

/-- A step in a comment that does not close it. -/
theorem step_blockComment {star : Bool} {c : Char} (h : ¬ (star = true ∧ c = '/')) :
    lexer.step (.blockComment [] star) c = (.blockComment [] (c == '*'), []) := by
  simp only [lexer, lexStep, h, if_false]

/-- A text in a documentation comment does not close it. Behind a star that holds for a text that does
not begin with a slash. -/
theorem run_docCommentChars (cs : List Char) (star : Bool) (h : star = true → cs.head? ≠ some '/') :
    ∃ star', lexer.run (.blockComment [] star) (Text.docCommentChars cs) =
      (.blockComment [] star', []) := by
  induction cs using Text.docCommentChars.induct generalizing star with
  | case1 => exact ⟨star, rfl⟩
  | case2 rest ih =>
    obtain ⟨star', hrest⟩ := ih false (by simp)
    refine ⟨star', ?_⟩
    rw [Text.docCommentChars, lexer.run_cons_of_step (step_blockComment (by simp)),
      lexer.run_cons_of_step (step_blockComment (by decide)),
      lexer.run_cons_of_step (step_blockComment (by decide))]
    exact hrest
  | case3 c rest hne ih =>
    have hopen : ¬ (star = true ∧ c = '/') := by
      intro hslash
      exact h hslash.1 (by rw [hslash.2]; rfl)
    have hnext : (c == '*') = true → rest.head? ≠ some '/' := by
      intro hc hhead
      obtain ⟨tail, htail⟩ := List.head?_eq_some_iff.mp hhead
      exact hne tail (eq_of_beq hc) htail
    obtain ⟨star', hrest⟩ := ih (c == '*') hnext
    refine ⟨star', ?_⟩
    rw [Text.docCommentChars, lexer.run_cons_of_step (step_blockComment hopen)]
    · exact hrest
    · exact hne

/-- A text in a documentation comment leaves nothing. -/
theorem reads_docCommentText (s : String) :
    lexer.Reads AwayFromStar InComment (Text.docCommentText s) [] := by
  rintro _ rfl
  obtain ⟨star, h⟩ := run_docCommentChars s.toList false (by simp)
  rw [Text.docCommentText, String.toList_ofList, h]
  exact ⟨⟨star, rfl⟩, rfl⟩

/-- A text without slashes and stars stays in the comment, away from any star. -/
theorem reads_inComment {s : String} (hslash : s.toList.all (fun c => c != '/' && c != '*') = true)
    (hne : s.toList ≠ []) : lexer.Reads InComment AwayFromStar s [] := by
  have haway (cs : List Char) (h : cs.all (fun c => c != '/' && c != '*') = true) :
      lexer.run (.blockComment [] false) cs = (.blockComment [] false, []) := by
    refine lexer.run_of_forall_step fun c hc => ?_
    have hc := List.all_eq_true.mp h c hc
    simp only [Bool.and_eq_true, bne_iff_ne, ne_eq] at hc
    rw [step_blockComment (by simp), beq_eq_false_iff_ne.mpr hc.2]
  rintro _ ⟨star, rfl⟩
  cases hs : s.toList with
  | nil => exact absurd hs hne
  | cons c rest =>
    rw [hs, List.all_cons, Bool.and_eq_true] at hslash
    obtain ⟨hc, hrest⟩ := hslash
    simp only [Bool.and_eq_true, bne_iff_ne, ne_eq] at hc
    have hopen : ¬ (star = true ∧ c = '/') := fun h => hc.1 h.2
    have hstep := step_blockComment hopen
    rw [beq_eq_false_iff_ne.mpr hc.2] at hstep
    rw [lexer.run_cons_of_step hstep, haway rest hrest]
    exact ⟨rfl, rfl⟩

/-- A name stands in a template as it is. -/
theorem templateText_eq_self {s : String} (h : ∀ c ∈ s.toList, isNameChar c = true) :
    Text.templateText s = s := by
  have hchars (cs : List Char) (h : ∀ c ∈ cs, isNameChar c = true) : Text.templateChars cs = cs := by
    induction cs with
    | nil => rfl
    | cons c rest ih =>
      obtain ⟨hc, hrest⟩ := List.forall_mem_cons.mp h
      obtain ⟨-, htick, -, -, hslash, hdollar, -⟩ := special_of_isNameChar hc
      rw [Text.templateChars.eq_5 _ _ hslash htick (fun _ hd => absurd hd hdollar), ih hrest]
  rw [Text.templateText, hchars _ h, String.ofList_toList]

theorem run_template_name {cs : List Char} (h : ∀ c ∈ cs, isNameChar c = true) :
    lexer.run (.template []) cs = (.template [], []) := by
  refine lexer.run_of_forall_step fun c hc => ?_
  obtain ⟨-, htick, -, -, hslash, hdollar, -⟩ := special_of_isNameChar (h c hc)
  simp only [lexer, lexStep, templateStep, htick, hslash, hdollar, if_false]

theorem run_hole_name {cs : List Char} (h : ∀ c ∈ cs, isNameChar c = true) :
    lexer.run (.code [0]) cs = (.code [0], cs.map .code) := by
  induction cs with
  | nil => rfl
  | cons c rest ih =>
    obtain ⟨hc, hrest⟩ := List.forall_mem_cons.mp h
    obtain ⟨hquote, htick, hslash, -, -, -, hopen, hclose⟩ := special_of_isNameChar hc
    have hstep : lexer.step (.code [0]) c = (.code [0], [.code c]) := by
      simp only [lexer, lexStep, codeStep, hquote, htick, hslash, hopen, hclose, if_false]
    rw [Machine.run_cons, hstep, ih hrest]
    rfl

/-- A name in a substitution is code between the braces. -/
theorem run_substitution {n : String} (h : Text.IsIdentifier n) :
    lexer.run (.template []) ("$\x7b" ++ n ++ "\x7d").toList =
      (.template [], .field '\x7b' :: Mark.ofCode n ++ [.field '\x7d']) := by
  have hopen : lexer.run (.template []) "$\x7b".toList = (.code [0], [.field '\x7b']) := by decide
  have hclose : lexer.run (.code [0]) "\x7d".toList = (.template [], [.field '\x7d']) := by decide
  rw [String.toList_append, String.toList_append]
  exact lexer.run_append_of_run (lexer.run_append_of_run hopen (run_hole_name h.isNameChar)) hclose

/-- The template literal of a handler leaves one mark and the names of the parameters. -/
theorem run_echo {t : ToolDecl} (ht : Text.IsIdentifier t.name)
    (hp : ∀ n ∈ t.paramNames, Text.IsIdentifier n) :
    lexer.run .start (echo t).toList =
      (.start, Mark.text ::
        t.paramNames.flatMap fun n => Mark.field '\x7b' :: Mark.ofCode n ++ [Mark.field '\x7d']) := by
  have hopen : lexer.run .start "\x60".toList = (.template [], [Mark.text]) := by decide
  have hclose : lexer.run (.template []) "\x60".toList = (.start, []) := by decide
  have hname : lexer.run (.template []) (Text.templateText t.name).toList = (.template [], []) := by
    rw [templateText_eq_self ht.isNameChar]
    exact run_template_name ht.isNameChar
  have hrest := lexer.run_executed t (by decide) (by decide) (by decide)
    fun n hn => run_substitution (hp n hn)
  have hall := lexer.run_append_of_run (lexer.run_append_of_run
    (lexer.run_append_of_run hopen hname) hrest) hclose
  rw [List.append_nil, List.append_nil, ← String.toList_append, ← String.toList_append,
    ← String.toList_append] at hall
  exact hall

/-- The template literal of a handler is read like itself. -/
theorem alike_echo {t : ToolDecl} (ht : Text.IsIdentifier t.name)
    (hp : ∀ n ∈ t.paramNames, Text.IsIdentifier n) :
    lexer.Alike AtStart AtStart (echo t) (echo t) :=
  Machine.alike_self (by rw [run_echo ht hp])

end Scaffold.TypeScript
