import Scaffold.Proofs.Python.Statements

namespace Scaffold.Python

open Mark (isCode isFlat spans)

variable {P Q R : LexState → Prop} {a b c : Nat} {s t : String}
variable {limits : Limits} {p : Parameter}

theorem statement_class (x : Bool) (rest : List Mark) :
    statement x (Mark.ofCode "class " ++ rest) = (true, [.model (word '(' rest)]) := by
  have hhead : (Mark.ofCode "class " ++ rest).head? = some (.code 'c') := rfl
  have hspace : ¬ (some (Mark.code 'c') = some (.code ' ')) := by decide
  rw [statement, hhead, if_neg hspace, behind?_append]

theorem statement_field (rest : List Mark) :
    statement true (Mark.ofCode indentUnit ++ rest) =
      (true, [.field (word ':' (Mark.ofCode indentUnit ++ rest))]) := by
  have hhead : (Mark.ofCode indentUnit ++ rest).head? = some (.code ' ') := rfl
  rw [statement, hhead, if_pos rfl, if_pos rfl]

/-- The indentation of a line. -/
theorem reads_indentUnit : lexer.Reads AtStart AtStart indentUnit (Mark.ofCode indentUnit) :=
  reads_atStart (reads_of_closesWord (by decide))

/-- The declaration of a parameter in its model is one statement. -/
theorem exists_cuts_fieldLine [Pattern.SizeLimit] (hp : p.Valid limits) :
    ∃ rest, cutting.Cuts (Line.render indentUnit (fieldLine (declare p)))
        [Mark.ofCode indentUnit ++ rest] ∧
      word ':' (Mark.ofCode indentUnit ++ rest) = p.identifier := by
  have hid : Text.IsIdentifier p.identifier := hp.bindable.isIdentifier
  obtain ⟨type, htype, htypeSpan⟩ := holds_typeToken p
  obtain ⟨validator, hvalidator, hvalidatorSpan⟩ := holds_validator hp
  have hname : lexer.Reads AtStart InCode (declare p).name (Mark.ofCode p.identifier) :=
    reads_atStart (reads_plain (plain_name hid))
  have hread := reads_indentUnit.append ((((hname.append (reads_of_closesWord (s := ": ") (by decide))).append
    htype).append (reads_of_closesWord (s := " = ") (by decide))).append hvalidator)
  -- Every bracket of the type and of the validator is closed in the line, so that the line is one statement.
  have hspan : spans isStop 0 0 (Mark.ofCode indentUnit ++ (Mark.ofCode p.identifier ++
      Mark.ofCode ": " ++ type ++ Mark.ofCode " = " ++ validator)) = true := by
    refine Mark.spans_append (b := 0) (by decide) (Mark.spans_append ?_ hvalidatorSpan)
    refine Mark.spans_append (b := 0) (Mark.spans_append ?_ htypeSpan) (by decide)
    exact Mark.spans_append (spans_name hid 0) (by decide)
  have hcode : (Mark.ofCode indentUnit ++ (Mark.ofCode p.identifier ++ Mark.ofCode ": " ++ type ++
      Mark.ofCode " = " ++ validator)).all Mark.isSpace = false := by
    have hcolon : (Mark.ofCode ": ").all Mark.isSpace = false := by decide
    simp only [List.all_append, hcolon, Bool.false_and, Bool.and_false]
  -- The reader passes the indentation, and the colon ends the name.
  have hword : word ':' (Mark.ofCode indentUnit ++ (Mark.ofCode p.identifier ++ Mark.ofCode ": " ++
      type ++ Mark.ofCode " = " ++ validator)) = p.identifier := by
    have hlayout : ∀ m ∈ Mark.ofCode indentUnit, isLayout m = true := by decide
    have hcolon : Mark.ofCode ": " = [.code ':', .code ' '] := by decide
    have h := word_name hlayout hid (by decide : ':' ∈ Text.punctuation)
      (.code ' ' :: (type ++ Mark.ofCode " = " ++ validator))
    rw [hcolon]
    simpa only [List.append_assoc, List.cons_append, List.nil_append] using h
  have h := cuts_statement (hread.mono (fun _ h => h) fun _ => .inl) (spans_isBreak hspan) hcode
  rw [fieldLine, Line.render_one indentUnit (by simp)]
  exact ⟨_, h, hword⟩

theorem declares_fieldLine [Pattern.SizeLimit] (hp : p.Valid limits) :
    Declares true true (Line.render indentUnit (fieldLine (declare p))) [.field p.identifier] := by
  obtain ⟨rest, hcuts, hword⟩ := exists_cuts_fieldLine hp
  apply Cutting.tells_piece_of_step hcuts
  rw [← hword]
  exact statement_field rest

/-- A comment at the margin, if something before the free text in it opens the comment. -/
theorem cuts_commentLine {before body : String}
    (hbefore : lexer.run .start before.toList = (.comment, [])) (hbody : Text.OneLine body) :
    cutting.Cuts (Line.render indentUnit ⟨0, before ++ body⟩) [] := by
  rw [Line.render_zero]
  exact cuts_blank (reads_comment hbefore hbody) rfl rfl

theorem declares_commentLine {before body : String} (x : Bool)
    (hbefore : lexer.run .start before.toList = (.comment, [])) (hbody : Text.OneLine body) :
    Declares x x (Line.render indentUnit ⟨0, before ++ body⟩) [] :=
  Cutting.tells_nothing (cuts_commentLine hbefore hbody)

/-- The head of a model is one statement. -/
theorem exists_cuts_classLine {n : String} (hn : Text.IsIdentifier n) :
    ∃ rest, cutting.Cuts (Line.render indentUnit
        ⟨0, "class " ++ (n ++ "_params") ++ "(BaseModel):"⟩) [Mark.ofCode "class " ++ rest] ∧
      word '(' rest = n ++ "_params" := by
  have hmodel : Text.IsIdentifier (n ++ "_params") := hn.append (by decide)
  have hread := ((reads_plain (s := "class ") (by decide)).append
    (reads_plain (plain_name hmodel))).append (reads_plain (s := "(BaseModel):") (by decide))
  have hspan : spans isStop 0 0 (Mark.ofCode "class " ++ Mark.ofCode (n ++ "_params") ++
      Mark.ofCode "(BaseModel):") = true :=
    Mark.spans_append (b := 0) (Mark.spans_append (b := 0) (by decide) (spans_name hmodel 0))
      (by decide)
  have hcode : (Mark.ofCode "class " ++ Mark.ofCode (n ++ "_params") ++
      Mark.ofCode "(BaseModel):").all Mark.isSpace = false := by
    have hclass : (Mark.ofCode "class ").all Mark.isSpace = false := by decide
    simp only [List.all_append, hclass, Bool.false_and]
  have hword : word '(' (Mark.ofCode (n ++ "_params") ++ Mark.ofCode "(BaseModel):") =
      n ++ "_params" :=
    word_nil_name hmodel (by decide) _
  have h := cuts_statement (hread.mono (fun _ => AtStart.inCode) fun _ => .inl)
    (spans_isBreak hspan) hcode
  rw [List.append_assoc] at h
  rw [Line.render_zero]
  exact ⟨_, h, hword⟩

theorem declares_classLine {n : String} (hn : Text.IsIdentifier n) :
    Declares false true (Line.render indentUnit ⟨0, "class " ++ (n ++ "_params") ++ "(BaseModel):"⟩)
      [.model (n ++ "_params")] := by
  obtain ⟨rest, hcuts, hword⟩ := exists_cuts_classLine hn
  apply Cutting.tells_piece_of_step hcuts
  rw [← hword]
  exact statement_class false rest

/-- The model that validates the input of a tool. -/
theorem declares_modelLines [Pattern.SizeLimit] {t : Tool} (ht : t.Valid limits) :
    Declares false true (Line.renderAll indentUnit (modelLines (t.declare .python)))
      (Item.model (t.identifier ++ "_params") :: t.parameterIdentifiers.map Item.field) := by
  have hid : Text.IsIdentifier t.identifier := ht.bindable.isIdentifier
  have hhead := Cutting.tells_cons (declares_commentLine false run_modelComment hid.oneLine)
    (Cutting.tells_cons (declares_classLine hid) (Cutting.tells_nil _ _ true))
  have hfields : Declares true true
      (Line.renderAll indentUnit ((t.declare .python).params.map fieldLine))
      (t.parameterIdentifiers.map Item.field) := by
    simp only [Tool.declare, Tool.parameterIdentifiers, List.map_map]
    exact Cutting.tells_map fun p hp => declares_fieldLine (ht.parameters_valid p hp)
  have hitems : Item.model (t.identifier ++ "_params") :: t.parameterIdentifiers.map Item.field =
      [] ++ ([Item.model (t.identifier ++ "_params")] ++ []) ++ t.parameterIdentifiers.map Item.field ++
        [] ++ [] ++ [] := by
    simp only [List.nil_append, List.append_nil, List.cons_append]
  unfold modelLines
  rw [Line.renderAll_append, Line.renderAll_append, Line.renderAll_append, Line.renderAll_append,
    hitems]
  refine (((hhead.append hfields).append (declares_idleLines ?_)).append
    (declares_idleLines ?_)).append (declares_idleLines ?_)
  · decide
  · simp only [Line.block, List.map_cons, List.map_nil]
    repeat rw [String.toList_ofList]
    decide
  · decide

/-- The mark of a comma. -/
abbrev isComma : Mark → Bool := isCode (· == ',')

theorem spans_isComma {ms : List Mark} (h : spans isStop a b ms = true) :
    spans isComma a b ms = true :=
  Mark.spans_mono (fun m hm => by simp only [isStop, hm, Bool.or_true]) h

theorem word_cons_layout {m : Mark} (hm : isLayout m = true) (stop : Char) (ms : List Mark) :
    word stop (m :: ms) = word stop ms := by
  rw [word, List.dropWhile_cons_of_pos hm, word]

/-- Layout before the first part shows in no word. -/
theorem map_word_modifyHead {m : Mark} (hm : isLayout m = true) (stop : Char)
    (lines : List (List Mark)) :
    (lines.modifyHead (m :: ·)).map (word stop) = lines.map (word stop) := by
  cases lines with
  | nil => rfl
  | cons line rest => rw [List.modifyHead_cons, List.map_cons, List.map_cons, word_cons_layout hm]

/-- A comma behind a part that spans ends it. -/
theorem splitOutside_comma {ms : List Mark} (h : spans isComma 0 0 ms = true) (rest : List Mark) :
    Mark.splitOutside isComma 0 (ms ++ .code ',' :: rest) =
      ms :: Mark.splitOutside isComma 0 rest := by
  have hcomma : Mark.splitOutside isComma 0 (.code ',' :: rest) =
      [] :: Mark.splitOutside isComma 0 rest := rfl
  rw [Mark.splitOutside_append h, hcomma, List.modifyHead_cons, List.append_nil]

/-- A part that spans is one part. -/
theorem splitOutside_of_spans {ms : List Mark} (h : spans isComma 0 0 ms = true) :
    Mark.splitOutside isComma 0 ms = [ms] := by
  have hsplit := Mark.splitOutside_append h []
  rw [List.append_nil] at hsplit
  rw [hsplit, Mark.splitOutside, List.modifyHead_cons, List.append_nil]

/-- A parameter in the parameter list of a handler. -/
theorem exists_reads_parameter [Pattern.SizeLimit] (hp : p.Valid limits) :
    ∃ ms, lexer.Reads AtStart InCode (p.identifier ++ ": " ++ (declare p).typeToken) ms ∧
      spans isStop 0 0 ms = true ∧ ∃ rest, ms = Mark.ofCode p.identifier ++ .code ':' :: rest := by
  have hid : Text.IsIdentifier p.identifier := hp.bindable.isIdentifier
  obtain ⟨type, htype, hspan⟩ := holds_typeToken p
  have hread := ((reads_plain (plain_name hid)).append (reads_of_closesWord (s := ": ")
    (by decide))).append htype
  refine ⟨_, reads_atStart hread, ?_, .code ' ' :: type, ?_⟩
  · exact Mark.spans_append (Mark.spans_append (spans_name hid 0) (by decide)) hspan
  · have hcolon : Mark.ofCode ": " = [.code ':', .code ' '] := by decide
    rw [hcolon, List.append_assoc]
    rfl

theorem all_isLayout_of_colon {ms ns : List Mark} :
    (ms ++ .code ':' :: ns).all isLayout = false := by
  have hcolon : isLayout (.code ':') = false := by decide
  simp only [List.all_append, List.all_cons, hcolon, Bool.false_and, Bool.and_false]

/-- The parameter list of a handler is split into its parameters. -/
theorem exists_reads_signature [Pattern.SizeLimit] {first : Parameter} {rest : List Parameter}
    (h : ∀ q ∈ first :: rest, q.Valid limits) :
    ∃ ms, lexer.Reads AtStart InCode (", ".intercalate ((first :: rest).map fun q =>
        q.identifier ++ ": " ++ (declare q).typeToken)) ms ∧
      spans isBreak 0 0 ms = true ∧ ms.all isLayout = false ∧
      (Mark.splitOutside isComma 0 ms).map (word ':') =
        (first :: rest).map Parameter.identifier := by
  -- By induction on the parameters behind the first one, as nothing stands before that one.
  induction rest generalizing first with
  | nil =>
    have hfirst : first.Valid limits := h first List.mem_cons_self
    obtain ⟨ms, hread, hspan, tail, hms⟩ := exists_reads_parameter hfirst
    refine ⟨ms, ?_, spans_isBreak hspan, ?_, ?_⟩
    · simpa only [List.map_cons, List.map_nil, String.intercalate_singleton] using hread
    · rw [hms]
      exact all_isLayout_of_colon
    · have hword : word ':' ms = first.identifier := by
        rw [hms]
        exact word_nil_name hfirst.bindable.isIdentifier (by decide) tail
      rw [splitOutside_of_spans (spans_isComma hspan), List.map_singleton, List.map_singleton, hword]
  | cons second rest ih =>
    obtain ⟨hfirst, hrest⟩ := List.forall_mem_cons.mp h
    obtain ⟨ms, hread, hspan, tail, hms⟩ := exists_reads_parameter hfirst
    obtain ⟨ns, hreads, hspans, -, hwords⟩ := ih hrest
    have hcomma : Mark.ofCode ", " = [.code ',', .code ' '] := by decide
    have hword : word ':' ms = first.identifier := by
      rw [hms]
      exact word_nil_name hfirst.bindable.isIdentifier (by decide) tail
    refine ⟨ms ++ Mark.ofCode ", " ++ ns, ?_, ?_, ?_, ?_⟩
    · rw [List.map_cons, List.map_cons, String.intercalate_cons_cons]
      exact (hread.append (reads_of_closesWord (by decide))).append hreads
    · exact Mark.spans_append (Mark.spans_append (spans_isBreak hspan) (by decide)) hspans
    · rw [hms, List.append_assoc, List.append_assoc]
      exact all_isLayout_of_colon
    -- The space behind the comma goes to the next parameter, where it is layout.
    · have hspace : Mark.splitOutside isComma 0 (.code ' ' :: ns) =
          (Mark.splitOutside isComma 0 ns).modifyHead (.code ' ' :: ·) := rfl
      rw [hcomma, List.append_assoc, List.cons_append, List.cons_append, List.nil_append,
        splitOutside_comma (spans_isComma hspan), List.map_cons, hword, hspace,
        map_word_modifyHead (by decide), hwords]
      rfl

/-- What stands between two brackets is what the reader looks at. -/
theorem parts_of_spans {ms : List Mark} (h : spans (fun _ => false) 0 0 ms = true)
    (hcode : ms.all isLayout = false) (rest : List Mark) :
    parts (ms ++ .code ')' :: rest) = Mark.splitOutside isComma 0 ms := by
  have hclose : Mark.untilClosed 0 (.code ')' :: rest) = [] := rfl
  simp only [parts, Mark.untilClosed_append h, hclose, List.append_nil, hcode, Bool.false_eq_true,
    if_false]

theorem spans_any {q : Mark → Bool} {ms : List Mark} (h : spans q a b ms = true) :
    spans (fun _ => false) a b ms = true := Mark.spans_mono (fun _ hm => nomatch hm) h

/-- The parameter list of a handler, with or without parameters. -/
theorem exists_parts_signature [Pattern.SizeLimit] {t : Tool} (ht : t.Valid limits) :
    ∃ ms, lexer.Reads AtStart InCode (signature (t.declare .python)) ms ∧
      spans isBreak 0 0 ms = true ∧
      ∀ rest, (parts (ms ++ .code ')' :: rest)).map (word ':') = t.parameterIdentifiers := by
  have htext : signature (t.declare .python) = ", ".intercalate (t.parameters.map fun q =>
      q.identifier ++ ": " ++ (declare q).typeToken) := by
    simp only [signature, Tool.declare, List.map_map, Function.comp_def]
    rfl
  have hvalid := ht.parameters_valid
  rw [htext, Tool.parameterIdentifiers]
  generalize t.parameters = ps at hvalid
  cases ps with
  | nil => exact ⟨[], fun _ hs => ⟨AtStart.inCode hs, rfl⟩, rfl, fun _ => rfl⟩
  | cons first rest =>
    obtain ⟨ms, hread, hspan, hcode, hwords⟩ := exists_reads_signature hvalid
    refine ⟨ms, hread, hspan, fun tail => ?_⟩
    rw [parts_of_spans (spans_any hspan) hcode, hwords]

theorem statement_handler (x : Bool) (rest : List Mark) :
    statement x (Mark.ofCode "async def " ++ rest) =
      (false, [.handler (word '(' rest) ((parts (behindOpen rest)).map (word ':'))]) := by
  have hhead : (Mark.ofCode "async def " ++ rest).head? = some (.code 'a') := rfl
  have hspace : ¬ (some (Mark.code 'a') = some (.code ' ')) := by decide
  have hclass : behind? "class " (Mark.ofCode "async def " ++ rest) = none := rfl
  rw [statement, hhead, if_neg hspace, hclass, behind?_append]

/-- The head of a handler is one statement. -/
theorem exists_cuts_handlerLine [Pattern.SizeLimit] {t : Tool} (ht : t.Valid limits) :
    ∃ rest, cutting.Cuts (Line.render indentUnit ⟨0, "async def " ++ (t.declare .python).name ++ "(" ++
        signature (t.declare .python) ++ ") -> Dict[str, Any]:"⟩) [Mark.ofCode "async def " ++ rest] ∧
      word '(' rest = t.identifier ∧
      (parts (behindOpen rest)).map (word ':') = t.parameterIdentifiers := by
  have hid : Text.IsIdentifier t.identifier := ht.bindable.isIdentifier
  have hname : lexer.Reads InCode InCode (t.declare .python).name (Mark.ofCode t.identifier) :=
    reads_plain (plain_name hid)
  obtain ⟨ms, hsignature, hspan, hparts⟩ := exists_parts_signature ht
  have hread := ((((reads_plain (s := "async def ") (by decide)).append hname).append
    (reads_of_closesWord (s := "(") (by decide))).append hsignature).append
    (reads_plain (s := ") -> Dict[str, Any]:") (by decide))
  -- The parameters stand one bracket deep, and what they open themselves they close.
  have hspans : spans isBreak 0 0 (Mark.ofCode "async def " ++ Mark.ofCode t.identifier ++
      Mark.ofCode "(" ++ ms ++ Mark.ofCode ") -> Dict[str, Any]:") = true := by
    refine Mark.spans_append (b := 1) (Mark.spans_append ?_ (Mark.spans_succ hspan)) (by decide)
    exact Mark.spans_append (Mark.spans_append (b := 0) (by decide)
      (spans_isBreak (spans_name hid 0))) (by decide)
  have hcode : (Mark.ofCode "async def " ++ Mark.ofCode t.identifier ++ Mark.ofCode "(" ++ ms ++
      Mark.ofCode ") -> Dict[str, Any]:").all Mark.isSpace = false := by
    have hasync : (Mark.ofCode "async def ").all Mark.isSpace = false := by decide
    simp only [List.all_append, hasync, Bool.false_and]
  have hopen : Mark.ofCode "(" = [.code '('] := by decide
  obtain ⟨tail, htail⟩ : ∃ tail, Mark.ofCode ") -> Dict[str, Any]:" = .code ')' :: tail := ⟨_, rfl⟩
  have h := cuts_statement (hread.mono (fun _ => AtStart.inCode) fun _ => .inl) hspans hcode
  -- The same marks, arranged as the reader takes them apart.
  have hrest : Mark.ofCode "async def " ++ Mark.ofCode t.identifier ++ Mark.ofCode "(" ++ ms ++
      Mark.ofCode ") -> Dict[str, Any]:" = Mark.ofCode "async def " ++
        (Mark.ofCode t.identifier ++ .code '(' :: (ms ++ .code ')' :: tail)) := by
    rw [hopen, htail]
    simp only [List.append_assoc, List.cons_append, List.nil_append]
  have hword : word '(' (Mark.ofCode t.identifier ++ .code '(' :: (ms ++ .code ')' :: tail)) =
      t.identifier := word_nil_name hid (by decide) _
  rw [hrest] at h
  rw [Line.render_zero]
  refine ⟨_, h, hword, ?_⟩
  rw [behindOpen_name hid, hparts]

theorem declares_handlerLine [Pattern.SizeLimit] {t : Tool} (ht : t.Valid limits) :
    Declares false false (Line.render indentUnit ⟨0, "async def " ++ (t.declare .python).name ++ "(" ++
        signature (t.declare .python) ++ ") -> Dict[str, Any]:"⟩)
      [.handler t.identifier t.parameterIdentifiers] := by
  obtain ⟨rest, hcuts, hword, hparts⟩ := exists_cuts_handlerLine ht
  apply Cutting.tells_piece_of_step hcuts
  rw [← hword, ← hparts]
  exact statement_handler false rest

/-- The documentation of a handler is one statement. -/
theorem cuts_docLine (description : String) :
    cutting.Cuts (Line.render indentUnit ⟨1, "\"\"\"" ++ Text.docstringBody description ++ "\"\"\""⟩)
      [Mark.ofCode indentUnit ++ [.text]] := by
  have hread := reads_indentUnit.append (Machine.reads_of_run (run_docstring description))
  rw [Line.render_one indentUnit (by simp)]
  exact cuts_statement (hread.mono (fun _ h => h) fun _ h => .inl (AtStart.inCode h)) (by decide)
    (by decide)

theorem declares_docLine (description : String) :
    Declares false false (Line.render indentUnit
      ⟨1, "\"\"\"" ++ Text.docstringBody description ++ "\"\"\""⟩) [] :=
  Cutting.tells_piece_of_step (cuts_docLine description) (by decide)

/-- A line with a keyword argument, up to the comma behind it. -/
theorem exists_reads_argument {n : String} (hn : Text.IsIdentifier n) :
    ∃ ms, lexer.Reads AtStart InCode (String.join (List.replicate 2 indentUnit) ++ (n ++ "=" ++ n)) ms ∧
      spans isStop 0 0 ms = true ∧ ms.all isLayout = false ∧
      ∀ rest, word '=' (ms ++ rest) = n := by
  have hindent : lexer.Reads AtStart AtStart (String.join (List.replicate 2 indentUnit))
      (Mark.ofCode "        ") :=
    reads_atStart (reads_of_closesWord (by decide))
  have hname := reads_plain (plain_name hn)
  have hread := hindent.append (reads_atStart ((hname.append (reads_plain (s := "=") (by decide))).append
    hname))
  refine ⟨_, hread, ?_, ?_, fun rest => ?_⟩
  · refine Mark.spans_append (b := 0) (by decide) (Mark.spans_append ?_ (spans_name hn 0))
    exact Mark.spans_append (spans_name hn 0) (by decide)
  · have hequals : (Mark.ofCode "=").all isLayout = false := by decide
    simp only [List.all_append, hequals, Bool.and_false, Bool.false_and]
  · have hlayout : ∀ m ∈ Mark.ofCode "        ", isLayout m = true := by decide
    have hequals : Mark.ofCode "=" = [.code '='] := by decide
    have h := word_name hlayout hn (by decide : '=' ∈ Text.punctuation) (Mark.ofCode n ++ rest)
    rw [hequals]
    simpa only [List.append_assoc, List.cons_append, List.nil_append] using h

/-- The keyword arguments of a call, with something behind them that is no argument, are split into
the names. -/
theorem exists_reads_arguments {first : String} {rest : List String}
    (h : ∀ n ∈ first :: rest, Text.IsIdentifier n) :
    ∃ ms, lexer.Reads AtStart AtStart
        (Line.renderAll indentUnit (argumentLines (first :: rest))) ms ∧
      spans isBreak 1 1 ms = true ∧ spans (fun _ => false) 0 0 ms = true ∧
      ms.all isLayout = false ∧ (∀ tail, spans isComma 0 0 tail = true →
        (Mark.splitOutside isComma 0 (ms ++ tail)).map (word '=') = first :: rest) := by
  have hbreak : lexer.Reads InCode AtStart "\n" [.code '\n'] := reads_break.mono (fun _ => .inl) fun _ h => h
  -- By induction on the names behind the first one, as the last line alone has no comma.
  induction rest generalizing first with
  | nil =>
    obtain ⟨ms, hread, hspan, hcode, hword⟩ := exists_reads_argument (h first List.mem_cons_self)
    refine ⟨ms ++ [.code '\n'], ?_, ?_, ?_, ?_, fun tail htail => ?_⟩
    · simp only [argumentLines, Line.renderAll, List.map_cons, List.map_nil, String.join_cons,
        String.join_nil, String.append_empty]
      rw [Line.render_of_ne_empty indentUnit (by simp)]
      exact hread.append hbreak
    · exact Mark.spans_append (spans_isBreak (Mark.spans_succ hspan)) (by decide)
    · exact Mark.spans_append (spans_any hspan) (by decide)
    · rw [List.all_append, hcode, Bool.false_and]
    · have hline : spans isComma 0 0 (ms ++ [.code '\n'] ++ tail) = true :=
        Mark.spans_append (Mark.spans_append (spans_isComma hspan) (by decide)) htail
      rw [splitOutside_of_spans hline, List.map_singleton, List.append_assoc, hword]
  | cons second rest ih =>
    obtain ⟨hfirst, hrest⟩ := List.forall_mem_cons.mp h
    obtain ⟨ms, hread, hspan, hcode, hword⟩ := exists_reads_argument hfirst
    obtain ⟨ns, hreads, hlines, hany, -, hwords⟩ := ih hrest
    refine ⟨ms ++ Mark.ofCode "," ++ [.code '\n'] ++ ns, ?_, ?_, ?_, ?_, fun tail htail => ?_⟩
    · simp only [argumentLines, Line.renderAll, List.map_cons, String.join_cons] at hreads ⊢
      rw [Line.render_of_ne_empty indentUnit (by simp), ← String.append_assoc]
      exact ((hread.append (reads_plain (by decide))).append hbreak).append hreads
    · refine Mark.spans_append (Mark.spans_append (b := 1) (Mark.spans_append (b := 1) ?_ ?_) ?_) hlines
      · exact spans_isBreak (Mark.spans_succ hspan)
      · decide
      · decide
    · exact Mark.spans_append (Mark.spans_append (b := 0) (Mark.spans_append (b := 0) (spans_any hspan)
        (by decide)) (by decide)) hany
    · simp only [List.all_append, hcode, Bool.false_and]
    · have hcomma : Mark.ofCode "," = [.code ','] := by decide
      have hnewline : Mark.splitOutside isComma 0 (.code '\n' :: (ns ++ tail)) =
          (Mark.splitOutside isComma 0 (ns ++ tail)).modifyHead (.code '\n' :: ·) := rfl
      have hfirstWord := hword []
      rw [List.append_nil] at hfirstWord
      rw [hcomma, List.append_assoc, List.append_assoc, List.append_assoc, List.cons_append,
        List.nil_append, List.cons_append, List.nil_append,
        splitOutside_comma (spans_isComma hspan), List.map_cons, hfirstWord, hnewline,
        map_word_modifyHead (by decide), hwords tail htail]

theorem statement_call (rest : List Mark) :
    statement false (Mark.ofCode "    params = " ++ rest) =
      (false, [.call (word '(' rest) ((parts (behindOpen rest)).map (word '='))]) := by
  have hhead : (Mark.ofCode "    params = " ++ rest).head? = some (.code ' ') := rfl
  rw [statement, hhead, if_pos rfl, behind?_append]
  rfl

/-- A call over several lines is one statement. -/
theorem exists_cuts_call {model : String} (hmodel : Text.IsIdentifier model) {arguments : String}
    {names : List String} {ms : List Mark} (hread : lexer.Reads AtStart AtStart arguments ms)
    (hspan : spans isBreak 1 1 ms = true) (hany : spans (fun _ => false) 0 0 ms = true)
    (hlayout : ms.all isLayout = false)
    (hwords : ∀ tail, spans isComma 0 0 tail = true →
      (Mark.splitOutside isComma 0 (ms ++ tail)).map (word '=') = names) :
    ∃ rest, cutting.Cuts (indentUnit ++ ("params = " ++ model ++ "(") ++ "\n" ++ arguments ++
        (indentUnit ++ ")") ++ "\n") [Mark.ofCode "    params = " ++ rest] ∧
      word '(' rest = model ∧ (parts (behindOpen rest)).map (word '=') = names := by
  have hopen := ((reads_plain (s := "params = ") (by decide)).append
    (reads_plain (plain_name hmodel))).append (reads_plain (s := "(") (by decide))
  have hcall := (((reads_indentUnit.append (reads_atStart hopen)).append
    (reads_break.mono (fun _ => .inl) fun _ h => h)).append hread).append (reads_indentUnit.append
      (reads_atStart (reads_plain (s := ")") (by decide))))
  -- The marks of the call, arranged as the reader takes them apart.
  have hmarks : Mark.ofCode indentUnit ++ (Mark.ofCode "params = " ++ Mark.ofCode model ++
        Mark.ofCode "(") ++ [Mark.code '\n'] ++ ms ++ (Mark.ofCode indentUnit ++ Mark.ofCode ")") =
      Mark.ofCode "    params = " ++ (Mark.ofCode model ++ Mark.code '(' ::
        ([Mark.code '\n'] ++ (ms ++ Mark.ofCode indentUnit) ++ [Mark.code ')'])) := by
    have hlead : Mark.ofCode "    params = " = Mark.ofCode indentUnit ++ Mark.ofCode "params = " := by
      decide
    have hparen : Mark.ofCode "(" = [Mark.code '('] := by decide
    have hclose : Mark.ofCode ")" = [Mark.code ')'] := by decide
    rw [hlead, hparen, hclose]
    simp only [List.append_assoc, List.cons_append, List.nil_append]
  have hspans : spans isBreak 0 0 (Mark.ofCode indentUnit ++ (Mark.ofCode "params = " ++
      Mark.ofCode model ++ Mark.ofCode "(") ++ [Mark.code '\n'] ++ ms ++
      (Mark.ofCode indentUnit ++ Mark.ofCode ")")) = true := by
    refine Mark.spans_append (b := 1) (Mark.spans_append (b := 1) (Mark.spans_append (b := 1) ?_
      (by decide)) hspan) (by decide)
    refine Mark.spans_append (b := 0) (by decide) (Mark.spans_append (b := 0) ?_ (by decide))
    exact Mark.spans_append (b := 0) (by decide) (spans_isBreak (spans_name hmodel 0))
  have hcode : (Mark.ofCode indentUnit ++ (Mark.ofCode "params = " ++ Mark.ofCode model ++
      Mark.ofCode "(") ++ [Mark.code '\n'] ++ ms ++ (Mark.ofCode indentUnit ++ Mark.ofCode ")")).all
        Mark.isSpace = false := by
    have hlead : (Mark.ofCode "params = ").all Mark.isSpace = false := by decide
    simp only [List.all_append, hlead, Bool.false_and, Bool.and_false]
  have hinside : spans (fun _ => false) 0 0
      ([Mark.code '\n'] ++ (ms ++ Mark.ofCode indentUnit)) = true :=
    Mark.spans_append (b := 0) (by decide) (Mark.spans_append hany (by decide))
  have hcodeInside : ([Mark.code '\n'] ++ (ms ++ Mark.ofCode indentUnit)).all isLayout = false := by
    simp only [List.all_append, hlayout, Bool.false_and, Bool.and_false]
  have hnewline : Mark.splitOutside isComma 0 ([Mark.code '\n'] ++ (ms ++ Mark.ofCode indentUnit)) =
      (Mark.splitOutside isComma 0 (ms ++ Mark.ofCode indentUnit)).modifyHead (Mark.code '\n' :: ·) := rfl
  have hword := word_nil_name hmodel (by decide : '(' ∈ Text.punctuation)
    ([Mark.code '\n'] ++ (ms ++ Mark.ofCode indentUnit) ++ [Mark.code ')'])
  have h := cuts_statement (hcall.mono (fun _ h => h) fun _ => .inl) hspans hcode
  rw [hmarks] at h
  refine ⟨_, h, hword, ?_⟩
  rw [behindOpen_name hmodel, parts_of_spans hinside hcodeInside, hnewline,
    map_word_modifyHead (by decide), hwords _ (by decide)]

/-- The call that validates the input of a tool is one statement. -/
theorem exists_cuts_validationLines {t : ToolDecl} (ht : Text.IsIdentifier t.name)
    (hp : ∀ n ∈ t.paramNames, Text.IsIdentifier n) (hne : t.paramNames ≠ []) :
    ∃ rest, cutting.Cuts (Line.renderAll indentUnit (validationLines t))
        [Mark.ofCode "    params = " ++ rest] ∧
      word '(' rest = modelName t ∧ (parts (behindOpen rest)).map (word '=') = t.paramNames := by
  have hmodel : Text.IsIdentifier (modelName t) := ht.append (by decide)
  obtain ⟨first, rest, hnames⟩ := List.exists_cons_of_ne_nil hne
  rw [hnames] at hp ⊢
  obtain ⟨ms, hread, hspan, hany, hlayout, hwords⟩ := exists_reads_arguments hp
  obtain ⟨marks, hcall, hword, hparts⟩ := exists_cuts_call hmodel hread hspan hany hlayout hwords
  -- The comment over the call and the blank line behind it are no statements.
  have hcomment : cutting.Cuts (Line.render indentUnit ⟨1, "# Validate parameters"⟩) [] := by
    have hrun : lexer.run .start (indentUnit ++ "# Validate parameters").toList =
        (.comment, Mark.ofCode indentUnit) := by
      decide
    have hread : lexer.Reads AtStart InLine (indentUnit ++ "# Validate parameters")
        (Mark.ofCode indentUnit) := by
      rintro _ rfl
      rw [hrun]
      exact ⟨.inr rfl, rfl⟩
    rw [Line.render_one indentUnit (by decide)]
    exact cuts_blank hread (by decide) (by decide)
  have hblank : cutting.Cuts (Line.render indentUnit .blank) [] := by
    have hread : lexer.Reads AtStart InLine "" [] := by
      rintro _ rfl
      exact ⟨.inl (AtStart.inCode rfl), rfl⟩
    exact cuts_blank hread rfl rfl
  have htext : Line.renderAll indentUnit (validationLines t) =
      Line.render indentUnit ⟨1, "# Validate parameters"⟩ ++
        (indentUnit ++ ("params = " ++ modelName t ++ "(") ++ "\n" ++
          Line.renderAll indentUnit (argumentLines (first :: rest)) ++ (indentUnit ++ ")") ++ "\n") ++
        Line.render indentUnit .blank := by
    unfold validationLines
    rw [Line.renderAll_append, Line.renderAll_append, hnames]
    simp only [Line.renderAll, Line.block, List.map_cons, List.map_nil, String.join_cons,
      String.join_nil, String.append_empty]
    rw [Line.render_one indentUnit (by simp), Line.render_one indentUnit (by simp),
      Line.render_one indentUnit (by decide : ")" ≠ "")]
    simp only [String.append_assoc]
  rw [htext]
  exact ⟨marks, cutting.append (cutting.append hcomment hcall) hblank, hword, hparts⟩

theorem declares_validationLines {t : ToolDecl} (ht : Text.IsIdentifier t.name)
    (hp : ∀ n ∈ t.paramNames, Text.IsIdentifier n) (hne : t.paramNames ≠ []) :
    Declares false false (Line.renderAll indentUnit (validationLines t))
      [.call (modelName t) t.paramNames] := by
  obtain ⟨rest, hcuts, hword, hparts⟩ := exists_cuts_validationLines ht hp hne
  apply Cutting.tells_piece_of_step hcuts
  rw [← hword, ← hparts]
  exact statement_call rest

/-- The f-string of a handler, and the names that are read back from it. -/
theorem exists_reads_echo {t : ToolDecl} (ht : Text.IsIdentifier t.name)
    (hp : ∀ n ∈ t.paramNames, Text.IsIdentifier n) :
    ∃ ms, lexer.Reads AtStart AtStart (echo t) ms ∧ spans isBreak 1 1 ms = true ∧
      ∀ before after, (∀ m ∈ before, Mark.isHoleless m = true) →
        (∀ m ∈ after, Mark.isHoleless m = true) →
        Mark.holes (before ++ ms ++ after) = t.paramNames := by
  refine ⟨_, Machine.reads_of_run (run_echo ht hp), ?_, fun before after hbefore hafter => ?_⟩
  · refine Mark.spans_append (b := 1) (by decide) (Mark.spans_of_isFlat (fun m hm => ?_) 1)
    obtain ⟨n, -, hm⟩ := List.mem_flatMap.mp hm
    obtain ⟨c, -, rfl⟩ := List.mem_map.mp hm
    exact ⟨rfl, rfl⟩
  -- A name between braces is a hole, and what stands around the holes has none.
  · have hfields : (t.paramNames.flatMap fun n => ("\x7b" ++ n ++ "\x7d").toList.map Mark.field) =
        t.paramNames.flatMap fun n =>
          Mark.field '\x7b' :: n.toList.map Mark.field ++ [Mark.field '\x7d'] := by
      refine List.flatMap_congr fun n _ => ?_
      rw [String.toList_append, String.toList_append, List.map_append, List.map_append]
      rfl
    have hlead : ∀ m ∈ before ++ [Mark.code 'f', Mark.text], Mark.isHoleless m = true := by
      rw [List.forall_mem_append]
      exact ⟨hbefore, by decide⟩
    rw [hfields, ← List.append_assoc]
    refine Mark.holes_flatMap (fun n hn => ⟨?_, fun m hm => ?_⟩) hlead hafter
    · have hchar : Mark.char ∘ Mark.field = id := rfl
      rw [List.map_map, hchar, List.map_id]
    · obtain ⟨c, hc, rfl⟩ := List.mem_map.mp hm
      obtain ⟨-, -, -, hopen, hclose, -⟩ := special_of_isNameChar ((hp n hn).isNameChar c hc)
      simp [Mark.isHoleless, hopen, hclose]

theorem statement_answer (rest : List Mark) :
    statement false (Mark.ofCode "    return " ++ rest) = (false, [.answer (Mark.holes rest)]) := by
  have hhead : (Mark.ofCode "    return " ++ rest).head? = some (.code ' ') := rfl
  have hcall : behind? "    params = " (Mark.ofCode "    return " ++ rest) = none := rfl
  rw [statement, hhead, if_pos rfl, hcall, behind?_append]
  rfl

/-- What a handler answers. -/
theorem exists_cuts_returnLine {t : ToolDecl} (ht : Text.IsIdentifier t.name)
    (hp : ∀ n ∈ t.paramNames, Text.IsIdentifier n) :
    ∃ rest, cutting.Cuts
        (Line.render indentUnit ⟨1, "return \x7b\"result\": " ++ echo t ++ "\x7d"⟩)
        [Mark.ofCode "    return " ++ rest] ∧
      Mark.holes rest = t.paramNames := by
  obtain ⟨ms, hecho, hspan, hholes⟩ := exists_reads_echo ht hp
  have hlead : lexer.Reads AtStart AtStart "return \x7b\"result\": "
      (Mark.ofCode "return \x7b" ++ [Mark.text, Mark.code ':', Mark.code ' ']) :=
    Machine.reads_of_run (by rfl)
  have hread := reads_indentUnit.append ((hlead.append hecho).append
    (reads_atStart (reads_plain (s := "\x7d") (by decide))))
  have hspans : spans isBreak 0 0 (Mark.ofCode indentUnit ++ (Mark.ofCode "return \x7b" ++
      [Mark.text, Mark.code ':', Mark.code ' '] ++ ms ++ Mark.ofCode "\x7d")) = true := by
    refine Mark.spans_append (b := 0) (by decide) (Mark.spans_append (b := 1) ?_ (by decide))
    exact Mark.spans_append (b := 1) (by decide) hspan
  have hcode : (Mark.ofCode indentUnit ++ (Mark.ofCode "return \x7b" ++
      [Mark.text, Mark.code ':', Mark.code ' '] ++ ms ++ Mark.ofCode "\x7d")).all Mark.isSpace = false := by
    have hreturn : (Mark.ofCode "return \x7b").all Mark.isSpace = false := by decide
    simp only [List.all_append, hreturn, Bool.false_and, Bool.and_false]
  -- The marks of the line, arranged as the reader takes them apart.
  have hmarks : Mark.ofCode indentUnit ++ (Mark.ofCode "return \x7b" ++
      [Mark.text, Mark.code ':', Mark.code ' '] ++ ms ++ Mark.ofCode "\x7d") =
      Mark.ofCode "    return " ++ ([Mark.code '\x7b', Mark.text, Mark.code ':', Mark.code ' '] ++ ms ++
        Mark.ofCode "\x7d") := by
    have hreturn : Mark.ofCode indentUnit ++ Mark.ofCode "return \x7b" =
        Mark.ofCode "    return " ++ [Mark.code '\x7b'] := by decide
    rw [← List.append_assoc, ← List.append_assoc, ← List.append_assoc, hreturn]
    simp only [List.append_assoc, List.cons_append, List.nil_append]
  have h := cuts_statement (hread.mono (fun _ h => h) fun _ => .inl) hspans hcode
  rw [hmarks] at h
  rw [Line.render_one indentUnit (by simp)]
  exact ⟨_, h, hholes _ _ (by decide) (by decide)⟩

theorem declares_returnLine {t : ToolDecl} (ht : Text.IsIdentifier t.name)
    (hp : ∀ n ∈ t.paramNames, Text.IsIdentifier n) :
    Declares false false
      (Line.render indentUnit ⟨1, "return \x7b\"result\": " ++ echo t ++ "\x7d"⟩)
      [.answer t.paramNames] := by
  obtain ⟨rest, hcuts, hholes⟩ := exists_cuts_returnLine ht hp
  apply Cutting.tells_piece_of_step hcuts
  rw [← hholes]
  exact statement_answer rest

/-- What the source of a tool declares. -/
def toolItems (t : Tool) : List Item :=
  let names := t.parameterIdentifiers
  (if names.isEmpty then [] else .model (t.identifier ++ "_params") :: names.map .field) ++
    [.handler t.identifier names] ++
    (if names.isEmpty then [] else [.call (t.identifier ++ "_params") names]) ++ [.answer names]

/-- The lines of a tool. -/
theorem declares_toolLines [Pattern.SizeLimit] {t : Tool} (ht : t.Valid limits) :
    Declares false false (Line.renderAll indentUnit (toolLines (t.declare .python)))
      (toolItems t) := by
  have hid : Text.IsIdentifier (t.declare .python).name := ht.bindable.isIdentifier
  have hids := ht.isIdentifier_paramNames .python
  have hnames := t.paramNames_declare .python
  have hparams := (t.declare .python).hasParams_eq
  rw [hnames] at hparams
  -- The model and the call of it are there if there are parameters; without them nothing stands in their places.
  have hmodel : Declares false (!t.parameterIdentifiers.isEmpty) (Line.renderAll indentUnit
      (if (t.declare .python).hasParams then modelLines (t.declare .python) else []))
      (if t.parameterIdentifiers.isEmpty then []
        else .model (t.identifier ++ "_params") :: t.parameterIdentifiers.map .field) := by
    rw [hparams]
    cases t.parameterIdentifiers.isEmpty with
    | true => exact Cutting.tells_nil _ _ false
    | false => exact declares_modelLines ht
  have hdecorator : Declares (!t.parameterIdentifiers.isEmpty) false
      (Line.render indentUnit ⟨0, "@server.tool()"⟩) [] := by
    cases t.parameterIdentifiers.isEmpty <;> exact declares_idleLine (by decide)
  have hhead := Cutting.tells_cons hdecorator (Cutting.tells_cons (declares_handlerLine ht)
    (Cutting.tells_cons (declares_docLine t.description) (Cutting.tells_nil _ _ false)))
  have hcall : Declares false false (Line.renderAll indentUnit
      (if (t.declare .python).hasParams then validationLines (t.declare .python) else []))
      (if t.parameterIdentifiers.isEmpty then []
        else [.call (t.identifier ++ "_params") t.parameterIdentifiers]) := by
    rw [hparams, ← hnames]
    cases hempty : (t.declare .python).paramNames with
    | nil => exact Cutting.tells_nil _ _ false
    | cons first rest =>
      have h := declares_validationLines hid hids (by rw [hempty]; exact List.cons_ne_nil _ _)
      rw [hempty] at h
      exact h
  have hhints : Declares false false (Line.renderAll indentUnit hintLines) [] := by
    refine declares_idleLines ?_
    simp only [hintLines, Line.block, List.map_cons, List.map_nil]
    repeat rw [String.toList_ofList]
    rfl
  have hanswer := Cutting.tells_cons (declares_returnLine hid hids) (Cutting.tells_nil _ _ false)
  have hblank : Declares false false (Line.renderAll indentUnit [.blank]) [] :=
    declares_idleLines (by decide)
  have h := ((((hblank.append hmodel).append hhead).append hcall).append hhints).append hanswer
  rw [hnames] at h
  unfold toolLines
  rw [Line.renderAll_append, Line.renderAll_append, Line.renderAll_append, Line.renderAll_append,
    Line.renderAll_append]
  simpa only [toolItems, List.append_nil, List.nil_append, List.append_assoc, Tool.declare] using h

/-- The lines after the tools declare nothing. -/
theorem declares_epilogue : Declares false false (Line.renderAll indentUnit epilogue) [] := by
  refine declares_idleLines ?_
  simp only [epilogue, Line.block, List.map_append, List.map_cons, List.map_nil]
  repeat rw [String.toList_ofList]
  decide

/-- The lines of the tools and after them. -/
theorem declares_body [Pattern.SizeLimit] {s : Server} (h : ∀ t ∈ s.tools, t.Valid limits) :
    Declares false false (Line.renderAll indentUnit
      ((s.moduleIn .python).tools.flatMap toolLines ++ epilogue)) (s.tools.flatMap toolItems) := by
  have htools : Declares false false
      (Line.renderAll indentUnit ((s.moduleIn .python).tools.flatMap toolLines))
      (s.tools.flatMap toolItems) := by
    simp only [Server.moduleIn, List.flatMap_map]
    exact Cutting.tells_flatMap fun t ht => declares_toolLines (h t ht)
  have hall := htools.append declares_epilogue
  rwa [List.append_nil, ← Line.renderAll_append] at hall

/-- The heading of a source is no statement. -/
theorem cuts_heading (name description : String) :
    cutting.Cuts (Line.renderAll indentUnit (Line.comment 0 "#" name ++ [⟨0, "#"⟩] ++
      if description.isEmpty then [] else Line.comment 0 "#" description ++ [⟨0, "#"⟩])) [] := by
  obtain ⟨n, hn⟩ := Line.run_heading run_headingLine name description
  exact ⟨_, hn, statements_replicate_break n⟩

/-- The import of pydantic, with the version behind it. -/
theorem cuts_pydanticLine {version : String} (h : Text.OneLine version) :
    cutting.Cuts (Line.render indentUnit ⟨0,
        "from pydantic import BaseModel, Field, validator  # pip install \"pydantic" ++ version⟩)
      [Mark.ofCode "from pydantic import BaseModel, Field, validator  "] := by
  rw [Line.render_zero]
  exact cuts_statement (reads_comment run_pydanticComment h) (by decide) (by decide)

theorem declares_pydanticLine {version : String} (h : Text.OneLine version) :
    Declares false false (Line.render indentUnit ⟨0,
      "from pydantic import BaseModel, Field, validator  # pip install \"pydantic" ++ version⟩) [] :=
  Cutting.tells_piece_of_step (cuts_pydanticLine h) (by decide)

/-- Whether a line with these characters leads out of no bracket when it stands inside of one. -/
def isInside (cs : List Char) : Bool := endsLine cs && spans isStop 1 1 (lexer.run .start cs).2

theorem holds_break : Holds InLine AtStart 1 1 "\n" := ⟨_, reads_break, by decide⟩

/-- Lines inside of brackets of which nothing but the code is looked at. -/
theorem holds_lines {ls : List Line}
    (h : (ls.map fun l => (l.depth, l.text.toList)).all (fun l => isInside (Line.chars indentUnit l.1 l.2)) =
      true) : Holds AtStart AtStart 1 1 (Line.renderAll indentUnit ls) := by
  rw [List.all_map, List.all_eq_true] at h
  refine holds_join fun text htext => ?_
  obtain ⟨l, hl, rfl⟩ := List.mem_map.mp htext
  have hinside := h l hl
  simp only [Function.comp_apply, isInside, Bool.and_eq_true] at hinside
  rw [Line.render_eq]
  refine Holds.append (Q := InLine) ⟨_, ?_, hinside.2⟩ holds_break
  rintro _ rfl
  rw [String.toList_ofList]
  exact ⟨inLine_of_endsLine hinside.1, rfl⟩

/-- A line with a setting of the server. -/
theorem holds_settingLine {key : String} (hkey : closesWord key = true)
    (hspan : spans isStop 1 1 (Mark.ofCode key) = true) (value : String) :
    Holds AtStart AtStart 1 1 (Line.render indentUnit ⟨1, key ++ Text.quote value ++ ","⟩) := by
  have hindent : Holds AtStart AtStart 1 1 indentUnit := ⟨_, reads_indentUnit, by decide⟩
  have hsetting := ((holds_of_closesWord hkey hspan).append (holds_quote value 1)).append
    (holds_code (by decide) (by decide) : Holds InCode InCode 1 1 ",")
  rw [Line.render_one indentUnit (by simp)]
  exact (hindent.append (hsetting.mono (fun _ h => h) fun _ => .inl)).append holds_break

theorem statement_server (rest : List Mark) :
    statement false (Mark.ofCode "server = MCPServer(" ++ rest) = (false, []) := rfl

/-- The comments inside of the call that makes the server. -/
def authLines : List Line := Line.block 1 [
  "# Uncomment to enable authentication",
  "# auth_config=\x7b",
  "#     \"api_keys\": [\"your-secret-key\"],  # Replace with actual API keys or use environment variables",
  "# \x7d"]

/-- The call that makes the server is one statement. -/
theorem exists_cuts_serverLines (name description : String) :
    ∃ rest, cutting.Cuts (Line.renderAll indentUnit ([⟨0, "server = MCPServer("⟩,
        ⟨1, "name=" ++ Text.quote name ++ ","⟩, ⟨1, "description=" ++ Text.quote description ++ ","⟩] ++
        authLines ++ [⟨0, ")"⟩])) [Mark.ofCode "server = MCPServer(" ++ rest] := by
  have hcomments : Holds AtStart AtStart 1 1 (Line.renderAll indentUnit authLines) := by
    refine holds_lines ?_
    simp only [authLines, Line.block, List.map_cons, List.map_nil]
    repeat rw [String.toList_ofList]
    decide
  have hname := holds_settingLine (by decide : closesWord "name=" = true) (by decide) name
  have hdescription := holds_settingLine (by decide : closesWord "description=" = true) (by decide)
    description
  obtain ⟨ms, hread, hspan⟩ := (((holds_break.mono (fun _ h => .inl (AtStart.inCode h)) fun _ h => h).append
    hname).append hdescription).append hcomments
  have hopen : lexer.Reads AtStart AtStart "server = MCPServer(" (Mark.ofCode "server = MCPServer(") :=
    reads_atStart (reads_of_closesWord (by decide))
  have hclose : lexer.Reads AtStart InLine ")" (Mark.ofCode ")") :=
    (reads_plain (by decide)).mono (fun _ => AtStart.inCode) fun _ => .inl
  -- The bracket of the call stays open over all lines between its first and its last one.
  have hspans : spans isBreak 0 0 (Mark.ofCode "server = MCPServer(" ++ ms ++ Mark.ofCode ")") = true :=
    Mark.spans_append (Mark.spans_append (b := 1) (by decide) (spans_isBreak hspan)) (by decide)
  have hcode : (Mark.ofCode "server = MCPServer(" ++ ms ++ Mark.ofCode ")").all Mark.isSpace = false := by
    have hserver : (Mark.ofCode "server = MCPServer(").all Mark.isSpace = false := by decide
    simp only [List.all_append, hserver, Bool.false_and]
  have h := cuts_statement ((hopen.append hread).append hclose) hspans hcode
  rw [List.append_assoc] at h
  rw [Line.renderAll_append, Line.renderAll_append]
  refine ⟨ms ++ Mark.ofCode ")", ?_⟩
  simpa only [Line.renderAll, List.map_cons, List.map_nil, String.join_cons, String.join_nil,
    String.append_empty, Line.render_zero, String.append_assoc] using h

/-- It declares nothing. -/
theorem declares_serverLines (name description : String) :
    Declares false false (Line.renderAll indentUnit ([⟨0, "server = MCPServer("⟩,
      ⟨1, "name=" ++ Text.quote name ++ ","⟩, ⟨1, "description=" ++ Text.quote description ++ ","⟩] ++
      authLines ++ [⟨0, ")"⟩])) [] := by
  obtain ⟨rest, hcuts⟩ := exists_cuts_serverLines name description
  exact Cutting.tells_piece_of_step hcuts (statement_server rest)

/-- The imports that stand before the settings of pydantic. -/
def firstImports : List Line := Line.block 0 ["",
  "from typing import Dict, List, Union, Optional, Any, Literal",
  "from mcp.server import MCPServer, Tool, Resources"]

/-- The imports behind them. -/
def lastImports : List Line := Line.block 0 [
  "import os", "import json", "import asyncio", "import datetime",
  "import requests  # You may need to install this: pip install requests", "",
  "# Initialize the MCP server with security options"]

/-- The lines before the tools, parted where free text and settings stand in them. -/
theorem preamble_eq (m : Module) (settings : Settings) :
    preamble m settings =
      (Line.comment 0 "#" m.serverName ++ [Line.mk 0 "#"] ++
        if m.description.isEmpty then [] else Line.comment 0 "#" m.description ++ [Line.mk 0 "#"]) ++
      [Line.mk 0 ("# MCP protocol version " ++ (settings.protocolVersion ++ (", Python SDK mcp==" ++
        settings.pythonSdkVersion)))] ++ firstImports ++
      [Line.mk 0 ("from pydantic import BaseModel, Field, validator  # pip install \"pydantic" ++
        (settings.pydanticRequirement ++ "\""))] ++ lastImports ++
      ([Line.mk 0 "server = MCPServer(", Line.mk 1 ("name=" ++ Text.quote m.serverName ++ ","),
        Line.mk 1 ("description=" ++ Text.quote m.description ++ ",")] ++ authLines ++
        [Line.mk 0 ")"]) ++ [Line.blank] := by
  simp only [preamble, authLines, firstImports, lastImports, Line.block, List.map_cons, List.map_nil,
    List.cons_append, List.nil_append, List.append_assoc, String.append_assoc]

/-- The lines before the tools declare nothing. -/
theorem declares_preamble (m : Module) {settings : Settings} (hs : settings.OneLine) :
    Declares false false (Line.renderAll indentUnit (preamble m settings)) [] := by
  have hversion := hs.pythonVersions
  have hpydantic := hs.pydantic
  -- Imports and calls at the margin are statements of no kind that the outline shows.
  have htyping : Declares false false (Line.renderAll indentUnit firstImports) [] := by
    refine declares_idleLines ?_
    simp only [firstImports, Line.block, List.map_cons, List.map_nil]
    repeat rw [String.toList_ofList]
    decide
  have himports : Declares false false (Line.renderAll indentUnit lastImports) [] := by
    refine declares_idleLines ?_
    simp only [lastImports, Line.block, List.map_cons, List.map_nil]
    repeat rw [String.toList_ofList]
    decide
  have hheading : Declares false false _ [] :=
    Cutting.tells_nothing (cuts_heading m.serverName m.description)
  have hblank : Declares false false (Line.renderAll indentUnit [.blank]) [] :=
    declares_idleLines (by decide)
  have hversions := Cutting.tells_cons (declares_commentLine false run_versionComment hversion)
    (Cutting.tells_nil _ _ false)
  have hrequirement := Cutting.tells_cons (declares_pydanticLine hpydantic)
    (Cutting.tells_nil _ _ false)
  have h := (((((hheading.append hversions).append htyping).append hrequirement).append
    himports).append (declares_serverLines m.serverName m.description)).append hblank
  rw [preamble_eq]
  simp only [Line.renderAll_append] at h ⊢
  simpa only [List.append_nil] using h

theorem outline_of_declares {y : Bool} {source : String} {items : List Item}
    (h : Declares false y source items) : outline source = items := by
  obtain ⟨ls, ⟨ms, hms, hls⟩, hrun⟩ := h
  have hstatements : statements ms = ls := by
    have hnil : statements [] = [] := rfl
    have hall := hls []
    rwa [hnil, List.append_nil, List.append_nil] at hall
  rw [outline, lex, hms, hstatements, hrun]

end Scaffold.Python
