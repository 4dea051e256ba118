import Scaffold.Proofs.Python.Lexer
import Scaffold.Proofs.Source.Alike
import Scaffold.Proofs.Text.Quoted
import Scaffold.Source.Python

namespace Scaffold.Python

open Text (isNameChar isInert IsEscape)

/-- The lexer stands in code. -/
def InCode (s : LexState) : Prop := ∃ before, s = .code before

/-- The lexer stands where a text begins. -/
abbrev AtStart (s : LexState) : Prop := s = .start

theorem AtStart.inCode {s : LexState} (h : AtStart s) : InCode s := ⟨.gap, h⟩

/-- A text that is read in the middle of code is read at its beginning too. -/
theorem reads_atStart {Q : LexState → Prop} {s : String} {ms : List Mark} (h : lexer.Reads InCode Q s ms) :
    lexer.Reads AtStart Q s ms :=
  h.mono (fun _ => AtStart.inCode) fun _ h => h

theorem alike_atStart {Q : LexState → Prop} {s t : String} (h : lexer.Alike InCode Q s t) :
    lexer.Alike AtStart Q s t :=
  h.mono (fun _ => AtStart.inCode) fun _ h => h

/-- Whether a character is code wherever it stands in code. -/
def isPlain (c : Char) : Bool := c != '"' && c != '#'

theorem codeStep_of_isPlain {c : Char} (h : isPlain c = true) (before : Before) :
    codeStep before c = (.code (before.next c), [.code c]) := by
  simp only [isPlain, Bool.and_eq_true, bne_iff_ne, ne_eq] at h
  simp only [codeStep, h.1, h.2, if_false]

theorem run_plain {cs : List Char} (h : ∀ c ∈ cs, isPlain c = true) (before : Before) :
    lexer.run (.code before) cs = (.code (cs.foldl Before.next before), cs.map .code) := by
  induction cs generalizing before with
  | nil => rfl
  | cons c rest ih =>
    obtain ⟨hc, hrest⟩ := List.forall_mem_cons.mp h
    have hstep : lexer.step (.code before) c = (.code (before.next c), [.code c]) :=
      codeStep_of_isPlain hc before
    rw [Machine.run_cons, hstep, ih hrest]
    rfl

/-- Whether a text is plain code. -/
def plain (s : String) : Bool := s.toList.all isPlain

theorem plain_append (s t : String) : plain (s ++ t) = (plain s && plain t) := by
  simp only [plain, String.toList_append, List.all_append]

/-- Plain code is code wherever it stands. -/
theorem reads_plain {s : String} (h : plain s = true) :
    lexer.Reads InCode InCode s (Mark.ofCode s) := by
  rintro _ ⟨b, rfl⟩
  rw [run_plain (List.all_eq_true.mp h)]
  exact ⟨⟨_, rfl⟩, rfl⟩

theorem alike_plain {s : String} (h : plain s = true) : lexer.Alike InCode InCode s s :=
  (reads_plain h).alike (reads_plain h)

/-- Whether a text is plain code and the last word of it is closed, so that a quote after it opens a
string. -/
def closesWord (s : String) : Bool :=
  plain s && s.toList.getLast?.any fun c => !isWordChar c

theorem reads_of_closesWord {s : String} (h : closesWord s = true) :
    lexer.Reads InCode AtStart s (Mark.ofCode s) := by
  simp only [closesWord, Bool.and_eq_true, plain, List.all_eq_true] at h
  obtain ⟨hplain, hlast⟩ := h
  have hgap (b : Before) : s.toList.foldl Before.next b = .gap := by
    cases hc : s.toList.getLast? with
    | none =>
      rw [hc] at hlast
      cases hlast
    | some c =>
      rw [hc] at hlast
      have hw : ¬ isWordChar c = true := by simpa using hlast
      obtain ⟨init, hinit⟩ := List.getLast?_eq_some_iff.mp hc
      rw [hinit, List.foldl_append, List.foldl_cons, List.foldl_nil, Before.next, if_neg hw]
  rintro _ ⟨b, rfl⟩
  rw [run_plain hplain, hgap]
  exact ⟨rfl, rfl⟩

theorem alike_of_closesWord {s : String} (h : closesWord s = true) :
    lexer.Alike InCode AtStart s s := (reads_of_closesWord h).alike (reads_of_closesWord h)

theorem stringStep_of_isInert {c : Char} (h : isInert c = true) : stringStep c = (.string, []) := by
  obtain ⟨hquote, hslash, hend⟩ := (Text.isInert_iff c).mp h
  have hbreak : isLineBreak c = false := by
    have hc := (Text.isLineEnd_eq_false_iff c).mp hend
    simp only [isLineBreak, beq_eq_false_iff_ne.mpr hc.1, beq_eq_false_iff_ne.mpr hc.2.1,
      Bool.or_self]
  simp only [stringStep, hquote, hslash, hbreak, Bool.false_eq_true, if_false]

theorem run_string_escape {cs : List Char} (h : IsEscape cs) :
    lexer.run .string cs = (.string, []) := by
  obtain ⟨e, rest, rfl, -, hrest⟩ := h
  rw [lexer.run_cons_of_step (t := .stringEscape) rfl, lexer.run_cons_of_step (t := .string) rfl]
  exact lexer.run_of_forall_step fun d hd => stringStep_of_isInert (hrest d hd)

theorem run_string_sourceChar (c : Char) :
    lexer.run .string (Text.sourceChar c) = (.string, []) := by
  rcases Text.sourceChar_cases c with ⟨hc, hi⟩ | he
  · rw [hc]
    have hstep : lexer.step .string c = (.string, []) := stringStep_of_isInert hi
    exact lexer.run_cons_of_step hstep []
  · exact run_string_escape he

/-- The first character of a literal tells an empty string from a longer one. -/
theorem run_opened {c : Char} (hc : c ≠ '"') (rest : List Char) :
    lexer.run .opened (c :: rest) = lexer.run .string (c :: rest) := by
  have hstep : lexer.step .opened c = lexer.step .string c := by
    simp only [lexer, lexStep, hc, if_false]
  rw [Machine.run_cons, Machine.run_cons, hstep]

theorem head_sourceChar (c : Char) : ∃ d rest, Text.sourceChar c = d :: rest ∧ d ≠ '"' := by
  rcases Text.sourceChar_cases c with ⟨hc, hi⟩ | ⟨e, rest, he, -⟩
  · exact ⟨c, [], hc, ((Text.isInert_iff c).mp hi).1⟩
  · exact ⟨'\\', e :: rest, he, by decide⟩

/-- A string literal leaves one mark, and behind it there is code. -/
theorem reads_quote (s : String) : lexer.Reads AtStart InCode (Text.quote s) [.text] := by
  rintro _ rfl
  have hopen : lexer.step .start '"' = (.opened, [.text]) := rfl
  simp only [Text.quote, Text.quoteWith, String.toList_ofList, Machine.run_cons, hopen]
  cases hs : s.toList with
  | nil => exact ⟨⟨.emptyText, rfl⟩, rfl⟩
  | cons c rest =>
    obtain ⟨d, ds, hd, hquote⟩ := head_sourceChar c
    have hbody : lexer.run .string ((c :: rest).flatMap Text.sourceChar) = (.string, []) :=
      lexer.run_flatMap_of_run fun e _ => run_string_sourceChar e
    have hclose : lexer.run .string ['"'] = (.code .gap, []) := rfl
    have hall := lexer.run_append_of_run hbody hclose
    rw [List.flatMap_cons, hd, List.cons_append, List.cons_append] at hall ⊢
    rw [run_opened hquote, hall]
    exact ⟨⟨.gap, rfl⟩, rfl⟩

/-- No string literal can be told from another. -/
theorem alike_quote (s t : String) : lexer.Alike AtStart InCode (Text.quote s) (Text.quote t) :=
  (reads_quote s).alike (reads_quote t)

theorem longStep_of_ne {c : Char} (hquote : c ≠ '"') (hslash : c ≠ '\\') (n : Nat) :
    longStep n c = (.long 0, []) := by
  simp only [longStep, hquote, hslash, if_false]

theorem run_long_docstringChar (c : Char) :
    lexer.run (.long 0) (Text.docstringChar c) = (.long 0, []) := by
  rcases Text.docstringChar_cases c with ⟨hc, hquote, hslash, -⟩ | ⟨e, rest, he, -, hrest⟩
  · rw [hc]
    have hstep : lexer.step (.long 0) c = (.long 0, []) := longStep_of_ne hquote hslash 0
    exact lexer.run_cons_of_step hstep []
  · rw [he, lexer.run_cons_of_step (t := .longEscape) rfl,
      lexer.run_cons_of_step (t := .long 0) rfl]
    refine lexer.run_of_forall_step fun d hd => ?_
    obtain ⟨hquote, hslash, -⟩ := (Text.isInert_iff d).mp (hrest d hd)
    exact longStep_of_ne hquote hslash 0

/-- A docstring leaves one mark. -/
theorem run_docstring (s : String) :
    lexer.run .start ("\"\"\"" ++ Text.docstringBody s ++ "\"\"\"").toList =
      (.start, [.text]) := by
  have hopen : lexer.run .start "\"\"\"".toList = (.long 0, [.text]) := by decide
  have hclose : lexer.run (.long 0) "\"\"\"".toList = (.start, []) := by decide
  have hbody : lexer.run (.long 0) (Text.docstringBody s).toList = (.long 0, []) := by
    rw [Text.docstringBody, String.toList_ofList]
    exact lexer.run_flatMap_of_run fun c _ => run_long_docstringChar c
  rw [String.toList_append, String.toList_append]
  exact lexer.run_append_of_run (lexer.run_append_of_run hopen hbody) hclose

theorem run_comment {body : String} (h : Text.OneLine body) :
    lexer.run .comment body.toList = (.comment, []) := by
  refine lexer.run_of_forall_step fun c hc => ?_
  have hends := (Text.isLineEnd_eq_false_iff c).mp (h c hc)
  have hbreak : isLineBreak c = false := by
    simp only [isLineBreak, beq_eq_false_iff_ne.mpr hends.1, beq_eq_false_iff_ne.mpr hends.2.1,
      Bool.or_self]
  simp only [lexer, lexStep, hbreak, Bool.false_eq_true, if_false]

/-- What follows the sign of a comment in its line leaves no mark. -/
theorem run_commented {before body : String} {out : List Mark}
    (hbefore : lexer.run .start before.toList = (.comment, out))
    (hbody : Text.OneLine body) :
    lexer.run .start (before ++ body ++ "\n").toList = (.start, out ++ [.code '\n']) := by
  have hbreak : lexer.run .comment "\n".toList = (.start, [.code '\n']) := by decide
  rw [String.toList_append, String.toList_append]
  have h := lexer.run_append_of_run (lexer.run_append_of_run hbefore (run_comment hbody)) hbreak
  rwa [List.append_nil] at h

/-- The lexer stands where the end of the line takes it back to the start. -/
def InLine (s : LexState) : Prop := InCode s ∨ s = .comment

theorem reads_break : lexer.Reads InLine AtStart "\n" [.code '\n'] := by
  have hbreak (s : LexState) (hs : InLine s) :
      lexer.run s "\n".toList = (.start, [.code '\n']) := by
    rcases hs with ⟨b, rfl⟩ | rfl
    · cases b <;> decide
    · decide
  intro s hs
  rw [hbreak s hs]
  exact ⟨rfl, rfl⟩

/-- A comment leaves what stands before it. -/
theorem reads_comment {before body : String} {out : List Mark}
    (hbefore : lexer.run .start before.toList = (.comment, out)) (hbody : Text.OneLine body) :
    lexer.Reads AtStart InLine (before ++ body) out := by
  rintro _ rfl
  rw [String.toList_append, lexer.run_append_of_run hbefore (run_comment hbody), List.append_nil]
  exact ⟨.inr rfl, rfl⟩

/-- Whether a text from the start leads to where the line can end. -/
def endsLine (cs : List Char) : Bool :=
  match (lexer.run .start cs).1 with
  | .code _ | .comment => true
  | _ => false

theorem inLine_of_endsLine {cs : List Char} (h : endsLine cs = true) :
    InLine (lexer.run .start cs).1 := by
  unfold endsLine at h
  split at h
  · next b hb => exact .inl ⟨b, hb⟩
  · next hc => exact .inr hc
  · cases h

/-- The characters that mean something in an f-string stand in no name. -/
theorem special_of_isNameChar {c : Char} (h : isNameChar c = true) :
    c ≠ '"' ∧ c ≠ '#' ∧ c ≠ '\\' ∧ c ≠ '\x7b' ∧ c ≠ '\x7d' ∧ isLineBreak c = false := by
  have hne (d : Char) (hd : d ∈ Text.punctuation) : c ≠ d := Text.ne_of_isNameChar h hd
  have hn : (c == '\n') = false :=
    beq_eq_false_iff_ne.mpr (Text.ne_layout_of_isNameChar h (by decide))
  have hr : (c == '\r') = false :=
    beq_eq_false_iff_ne.mpr (Text.ne_layout_of_isNameChar h (by decide))
  refine ⟨hne _ (by decide), hne _ (by decide), hne _ (by decide), hne _ (by decide),
    hne _ (by decide), ?_⟩
  simp only [isLineBreak, hn, hr, Bool.or_self]

theorem isPlain_of_isNameChar {c : Char} (h : isNameChar c = true) : isPlain c = true := by
  obtain ⟨hquote, hhash, -⟩ := special_of_isNameChar h
  simp only [isPlain, Bool.and_eq_true, bne_iff_ne, ne_eq]
  exact ⟨hquote, hhash⟩

/-- A name is plain code. -/
theorem plain_name {n : String} (h : Text.IsIdentifier n) : plain n = true :=
  List.all_eq_true.mpr fun c hc => isPlain_of_isNameChar (h.isNameChar c hc)

/-- So is a number, and a default without quotes. -/
theorem plain_token {s : String} (h : TokenText s.toList) : plain s = true := by
  refine List.all_eq_true.mpr fun c hc => ?_
  simp only [isPlain, Bool.and_eq_true, bne_iff_ne, ne_eq]
  exact ⟨h.ne hc (by decide), h.ne hc (by decide)⟩

/-- A name stands in an f-string as it is. -/
theorem formatStringText_eq_self {s : String} (h : ∀ c ∈ s.toList, isNameChar c = true) :
    Text.formatStringText s = s := by
  have hflat : s.toList.flatMap Text.formatStringChar = s.toList.flatMap fun c => [c] := by
    refine List.flatMap_congr fun c hc => ?_
    obtain ⟨hquote, -, hslash, hopen, hclose, -⟩ := special_of_isNameChar (h c hc)
    simp only [Text.formatStringChar, hquote, hslash, hopen, hclose, if_false]
  rw [Text.formatStringText, hflat, List.flatMap_singleton', String.ofList_toList]

theorem run_format_name {cs : List Char} (h : ∀ c ∈ cs, isNameChar c = true) :
    lexer.run .format cs = (.format, []) := by
  refine lexer.run_of_forall_step fun c hc => ?_
  obtain ⟨hquote, -, hslash, hopen, hclose, hbreak⟩ := special_of_isNameChar (h c hc)
  simp only [lexer, lexStep, formatStep, hquote, hslash, hopen, hclose, hbreak,
    Bool.false_eq_true, if_false]

theorem fieldStep_of_isNameChar {c : Char} (h : isNameChar c = true) :
    fieldStep c = (.field, [.field c]) := by
  obtain ⟨hquote, hhash, hslash, hopen, hclose, hbreak⟩ := special_of_isNameChar h
  simp only [fieldStep, hquote, hhash, hslash, hopen, hclose, hbreak, Bool.false_eq_true, or_self,
    if_false]

theorem run_field_name {cs : List Char} (h : ∀ c ∈ cs, isNameChar c = true) :
    lexer.run .field cs = (.field, cs.map .field) := by
  induction cs with
  | nil => rfl
  | cons c rest ih =>
    obtain ⟨hc, hrest⟩ := List.forall_mem_cons.mp h
    have hstep : lexer.step .field c = (.field, [.field c]) := fieldStep_of_isNameChar hc
    rw [Machine.run_cons, hstep, ih hrest]
    rfl

/-- A name between braces leaves itself and the braces. -/
theorem run_field {n : String} (h : Text.IsIdentifier n) :
    lexer.run .format ("\x7b" ++ n ++ "\x7d").toList =
      (.format, ("\x7b" ++ n ++ "\x7d").toList.map .field) := by
  have hname := h.isNameChar
  have hclose : lexer.run .field "\x7d".toList = (.format, [.field '\x7d']) := by decide
  simp only [String.toList_append]
  cases hn : n.toList with
  | nil => exact absurd hn h.ne_nil
  | cons c rest =>
    rw [hn] at hname
    obtain ⟨hc, hrest⟩ := List.forall_mem_cons.mp hname
    obtain ⟨-, -, -, hopen, hshut, -⟩ := special_of_isNameChar hc
    have hbrace : lexer.step .format '\x7b' = (.formatOpen, []) := rfl
    have hfirst : lexer.step .formatOpen c = (.field, [.field '\x7b', .field c]) := by
      simp only [lexer, lexStep, hopen, hshut, fieldStep_of_isNameChar hc, if_false]
    have htail := lexer.run_append_of_run (run_field_name hrest) hclose
    change lexer.run .format ('\x7b' :: (c :: (rest ++ "\x7d".toList))) = _
    rw [lexer.run_cons_of_step hbrace, Machine.run_cons, hfirst, htail]
    rw [List.map_append, List.map_append]
    rfl

/-- The f-string of a handler leaves its prefix, one mark, and the names of the parameters. -/
theorem run_echo {t : ToolDecl} (ht : Text.IsIdentifier t.name)
    (hp : ∀ n ∈ t.paramNames, Text.IsIdentifier n) :
    lexer.run .start (echo t).toList =
      (.start, [Mark.code 'f', Mark.text] ++
        t.paramNames.flatMap fun n => ("\x7b" ++ n ++ "\x7d").toList.map Mark.field) := by
  have hopen : lexer.run .start "f\"".toList = (.format, [Mark.code 'f', Mark.text]) := by decide
  have hclose : lexer.run .format "\"".toList = (.start, []) := by decide
  have hname : lexer.run .format (Text.formatStringText t.name).toList = (.format, []) := by
    rw [formatStringText_eq_self ht.isNameChar]
    exact run_format_name ht.isNameChar
  have hrest := lexer.run_executed t (by decide) (by decide) (by decide) fun n hn => run_field (hp n hn)
  have hall := lexer.run_append_of_run (lexer.run_append_of_run
    (lexer.run_append_of_run hopen hname) hrest) hclose
  rw [List.append_nil, List.append_nil, ← String.toList_append, ← String.toList_append,
    ← String.toList_append] at hall
  exact hall

end Scaffold.Python
