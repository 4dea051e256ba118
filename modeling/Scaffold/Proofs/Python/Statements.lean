import Scaffold.Proofs.Python.FreeText
import Scaffold.Proofs.Python.Outline

/-!
What the reader of Python makes of a piece of source. Pieces of a line are judged by the brackets and
commas they leave, lines and blocks by the statements they amount to; free text leaves nothing but the
marks of literals.
-/

namespace Scaffold.Python

open Mark (isCode isFlat spans)

/-- Whether the mark ends a line or a part. -/
def isStop (m : Mark) : Bool := isBreak m || isCode (· == ',') m

/-- The text is read as marks that lead from `a` open brackets to `b`, with no stop outside all
brackets. -/
def Holds (P Q : LexState → Prop) (a b : Nat) (s : String) : Prop :=
  ∃ ms, lexer.Reads P Q s ms ∧ spans isStop a b ms = true

variable {P Q R : LexState → Prop} {a b c : Nat} {s t : String}

theorem Holds.append (hs : Holds P Q a b s) (ht : Holds Q R b c t) : Holds P R a c (s ++ t) := by
  obtain ⟨ms, hms, hspan⟩ := hs
  obtain ⟨ns, hns, hspan'⟩ := ht
  exact ⟨ms ++ ns, hms.append hns, Mark.spans_append hspan hspan'⟩

theorem Holds.mono {P' Q' : LexState → Prop} (h : Holds P Q a b s) (hP : ∀ x, P' x → P x)
    (hQ : ∀ x, Q x → Q' x) : Holds P' Q' a b s := by
  obtain ⟨ms, hms, hspan⟩ := h
  exact ⟨ms, hms.mono hP hQ, hspan⟩

/-- Fixed code. -/
theorem holds_code (h : plain s = true) (hspan : spans isStop a b (Mark.ofCode s) = true) :
    Holds InCode InCode a b s := ⟨_, reads_plain h, hspan⟩

/-- Fixed code with a closed word at its end. -/
theorem holds_of_closesWord (h : closesWord s = true)
    (hspan : spans isStop a b (Mark.ofCode s) = true) : Holds AtStart AtStart a b s :=
  ⟨_, reads_atStart (reads_of_closesWord h), hspan⟩

theorem holds_quote (s : String) (a : Nat) : Holds AtStart InCode a a (Text.quote s) := by
  refine ⟨_, reads_quote s, Mark.spans_of_isFlat (fun m hm => ?_) a⟩
  rw [List.mem_singleton.mp hm]
  exact ⟨rfl, rfl⟩

theorem holds_join {xs : List String} (h : ∀ x ∈ xs, Holds P P a a x) :
    Holds P P a a (String.join xs) := by
  induction xs with
  | nil => exact ⟨[], fun _ hs => ⟨hs, rfl⟩, beq_self_eq_true a⟩
  | cons x xs ih =>
    obtain ⟨hx, hxs⟩ := List.forall_mem_cons.mp h
    rw [String.join_cons]
    exact hx.append (ih hxs)

theorem holds_intercalate {sep : String} {xs : List String} (hsep : Holds Q P a a sep)
    (hPQ : ∀ x, P x → Q x) (h : ∀ x ∈ xs, Holds P Q a a x) :
    Holds P Q a a (sep.intercalate xs) := by
  induction xs with
  | nil => exact ⟨[], fun _ hs => ⟨hPQ _ hs, rfl⟩, beq_self_eq_true a⟩
  | cons x xs ih =>
    obtain ⟨hx, hxs⟩ := List.forall_mem_cons.mp h
    cases xs with
    | nil => simpa only [String.intercalate_singleton] using hx
    | cons y ys =>
      rw [String.intercalate_cons_cons]
      exact (hx.append hsep).append (ih hxs)

/-- Characters that are no punctuation are no brackets and part nothing. -/
theorem isFlat_of_ne {c : Char} (h : ∀ d ∈ Text.punctuation, c ≠ d) : (Mark.code c).isFlat = true := by
  have hne (d : Char) (hd : d ∈ Text.punctuation) : (c == d) = false := beq_eq_false_iff_ne.mpr (h d hd)
  simp only [isFlat, Mark.opens, Mark.closes, isCode, hne '(' (by decide), hne '[' (by decide),
    hne '\x7b' (by decide), hne ')' (by decide), hne ']' (by decide), hne '\x7d' (by decide),
    Bool.or_self, Bool.not_false, Bool.and_self]

theorem isFlat_of_isNameChar {c : Char} (h : Text.isNameChar c = true) :
    (Mark.code c).isFlat = true ∧ isStop (.code c) = false := by
  refine ⟨isFlat_of_ne fun d => Text.ne_of_isNameChar h, ?_⟩
  have hcomma : (c == ',') = false :=
    beq_eq_false_iff_ne.mpr (Text.ne_of_isNameChar h (by decide))
  obtain ⟨-, -, -, -, -, hbreak⟩ := special_of_isNameChar h
  simp only [isStop, isBreak, isCode, hbreak, hcomma, Bool.or_self]

/-- A name spans at any depth. -/
theorem spans_name {n : String} (h : Text.IsIdentifier n) (a : Nat) :
    spans isStop a a (Mark.ofCode n) = true := by
  refine Mark.spans_of_isFlat (fun m hm => ?_) a
  obtain ⟨c, hc, rfl⟩ := List.mem_map.mp hm
  exact isFlat_of_isNameChar (h.isNameChar c hc)

/-- A number and a default without quotes may hold the end of a line, but no bracket. -/
theorem holds_token {s : String} (h : TokenText s.toList) : Holds AtStart InCode 1 1 s := by
  refine ⟨_, reads_atStart (reads_plain (plain_token h)), ?_⟩
  refine Mark.spans_inside (fun m hm => ?_) 0
  obtain ⟨c, hc, rfl⟩ := List.mem_map.mp hm
  exact isFlat_of_ne fun d => h.ne hc

variable {limits : Limits} {p : Parameter}

/-- The type of a parameter is one part and lies on one line. -/
theorem holds_typeToken (p : Parameter) : Holds AtStart InCode 0 0 (declare p).typeToken := by
  simp only [declare, fragment, Fragment.resolve]
  cases p.alternatives with
  | none =>
    refine (holds_code (plain_baseType p.type) ?_).mono (fun _ => AtStart.inCode) fun _ h => h
    cases p.type <;> decide
  | some values =>
    have hopen : Holds AtStart AtStart 0 1 "Literal[" := holds_of_closesWord (by decide) (by decide)
    have hcomma : Holds InCode AtStart 1 1 ", " := ⟨_, reads_of_closesWord (by decide), by decide⟩
    have hvalues : Holds AtStart InCode 1 1 (", ".intercalate (quoteAll values)) := by
      refine holds_intercalate hcomma (fun _ => AtStart.inCode) fun x hx => ?_
      obtain ⟨v, -, rfl⟩ := List.mem_map.mp hx
      exact holds_quote v 1
    exact (hopen.append hvalues).append (holds_code (by decide) (by decide))

/-- A keyword argument stays inside the brackets around it. -/
theorem holds_keyword [Pattern.SizeLimit] (hp : p.Valid limits) {k : Check} (hk : k ∈ p.checks)
    {part : String} (h : keyword? p.type k = some part) : Holds AtStart InCode 1 1 part := by
  have hnumber {key s : String} (hkey : Holds AtStart AtStart 1 1 key) (hs : NumberText s.toList) :
      Holds AtStart InCode 1 1 (key ++ s) := hkey.append (holds_token hs.tokenText)
  cases k with
  | minLength n =>
    cases h
    exact hnumber (holds_of_closesWord (by decide) (by decide)) (numberText_toString _)
  | maxLength n =>
    cases h
    exact hnumber (holds_of_closesWord (by decide) (by decide)) (numberText_toString _)
  | pattern x =>
    cases h
    exact (holds_of_closesWord (by decide) (by decide)).append (holds_quote x 1)
  | atLeast x =>
    cases h
    exact hnumber (holds_of_closesWord (by decide) (by decide)) x.numberText_text
  | atMost x =>
    cases h
    exact hnumber (holds_of_closesWord (by decide) (by decide)) x.numberText_text
  | default v =>
    cases h
    have hkey : Holds AtStart AtStart 1 1 "default=" :=
      holds_of_closesWord (by decide) (by decide)
    refine hkey.append ?_
    obtain ⟨c, hv⟩ := hp.suits (Parameter.default_of_mem_checks hk)
    -- A textual default stands between quotes, any other one is a token that suits the type.
    cases ht : p.type.isTextual with
    | true =>
      simp only [DefaultValue.literal, ht, if_true]
      exact holds_quote _ 1
    | false => exact holds_token (hv.tokenText_literal ht numberText_boolLiteral)
  | email | url | whole | omissible => cases h

/-- The validator of a parameter is one expression. -/
theorem holds_validator [Pattern.SizeLimit] (hp : p.Valid limits) : Holds AtStart InCode 0 0
    (declare p).validator := by
  have hopen : Holds AtStart AtStart 0 1 "Field(description=" :=
    holds_of_closesWord (by decide) (by decide)
  have hcomma : Holds InCode AtStart 1 1 ", " := ⟨_, reads_of_closesWord (by decide), by decide⟩
  simp only [declare, Fragment.splice, fragment]
  refine ((hopen.append (holds_quote _ 1)).append (holds_join fun x hx => ?_)).append
    (holds_code (by decide) (by decide))
  obtain ⟨part, hpart, rfl⟩ := List.mem_map.mp hx
  obtain ⟨k, hk, hkey⟩ := mem_parts_iff.mp hpart
  exact hcomma.append (holds_keyword hp hk hkey)

/-- A text that the lexer reads from the start to the start is cut into statements. -/
def cutting : Cutting (List Mark) where
  Cuts s ls := ∃ ms, lexer.run .start s.toList = (.start, ms) ∧
    ∀ rest, statements (ms ++ rest) = ls ++ statements rest
  empty := ⟨[], rfl, fun _ => rfl⟩
  append := by
    rintro s t as bs ⟨ms, hms, has⟩ ⟨ns, hns, hbs⟩
    refine ⟨ms ++ ns, ?_, fun rest => ?_⟩
    · rw [String.toList_append]
      exact lexer.run_append_of_run hms hns
    · rw [List.append_assoc, has, hbs, List.append_assoc]

/-- A text declares these items, wherever it stands between statements. -/
abbrev Declares (x y : Bool) (s : String) (items : List Item) : Prop :=
  cutting.Tells outliner x y s items

theorem spans_isBreak {ms : List Mark} (h : spans isStop a b ms = true) :
    spans isBreak a b ms = true :=
  Mark.spans_mono (fun m hm => by simp only [isStop, hm, Bool.true_or]) h

/-- The end of a line outside all brackets ends a statement. -/
theorem statements_line {ms : List Mark} (h : spans isBreak 0 0 ms = true) (rest : List Mark) :
    statements (ms ++ [Mark.code '\n'] ++ rest) =
      (if ms.all Mark.isSpace then [] else [ms]) ++ statements rest := by
  have hsplit : Mark.splitOutside isBreak 0 ([Mark.code '\n'] ++ rest) =
      [] :: Mark.splitOutside isBreak 0 rest := rfl
  rw [List.append_assoc, statements, Mark.splitOutside_append h, hsplit, List.modifyHead_cons,
    List.append_nil, List.filter_cons]
  cases ms.all Mark.isSpace <;> rfl

/-- Empty lines are no statements. -/
theorem statements_replicate_break (n : Nat) (rest : List Mark) :
    statements (List.replicate n (Mark.code '\n') ++ rest) = statements rest := by
  induction n with
  | zero => rfl
  | succ n ih =>
    have hnil : spans isBreak 0 0 [] = true := rfl
    have h := statements_line hnil (List.replicate n (Mark.code '\n') ++ rest)
    rw [List.replicate_succ, List.cons_append]
    exact h.trans ih

/-- One statement with the end of its line. -/
theorem cuts_statement {ms : List Mark} (hread : lexer.Reads AtStart InLine s ms)
    (hspan : spans isBreak 0 0 ms = true) (hcode : ms.all Mark.isSpace = false) :
    cutting.Cuts (s ++ "\n") [ms] := by
  obtain ⟨hend, hout⟩ := (hread.append reads_break) .start rfl
  refine ⟨_, Prod.ext hend hout, fun rest => ?_⟩
  rw [statements_line hspan, hcode]
  rfl

/-- A line without code. -/
theorem cuts_blank {ms : List Mark} (hread : lexer.Reads AtStart InLine s ms)
    (hspan : spans isBreak 0 0 ms = true) (hblank : ms.all Mark.isSpace = true) :
    cutting.Cuts (s ++ "\n") [] := by
  obtain ⟨hend, hout⟩ := (hread.append reads_break) .start rfl
  refine ⟨_, Prod.ext hend hout, fun rest => ?_⟩
  rw [statements_line hspan, hblank]
  rfl

theorem declares_statement {ms : List Mark} (hread : lexer.Reads AtStart InLine s ms)
    (hspan : spans isBreak 0 0 ms = true) (hcode : ms.all Mark.isSpace = false) (x : Bool) :
    Declares x (statement x ms).1 (s ++ "\n") (statement x ms).2 :=
  Cutting.tells_piece (m := outliner) (cuts_statement hread hspan hcode)

theorem declares_blank {ms : List Mark} (hread : lexer.Reads AtStart InLine s ms)
    (hspan : spans isBreak 0 0 ms = true) (hblank : ms.all Mark.isSpace = true) (x : Bool) :
    Declares x x (s ++ "\n") [] := Cutting.tells_nothing (cuts_blank hread hspan hblank)

/-- Whether a line with these characters is read as a statement that declares nothing, or as no
statement at all. -/
def isIdle (x y : Bool) (cs : List Char) : Bool :=
  let ms := (lexer.run .start cs).2
  endsLine cs && spans isBreak 0 0 ms &&
    if ms.all Mark.isSpace then x == y else decide (statement x ms = (y, []))

theorem declares_of_isIdle {x y : Bool} {cs : List Char} (hs : s.toList = cs)
    (h : isIdle x y cs = true) : Declares x y (s ++ "\n") [] := by
  simp only [isIdle, Bool.and_eq_true] at h
  obtain ⟨⟨hend, hspan⟩, hidle⟩ := h
  have hread : lexer.Reads AtStart InLine s (lexer.run .start cs).2 := by
    rintro _ rfl
    rw [hs]
    exact ⟨inLine_of_endsLine hend, rfl⟩
  split at hidle
  · next hblank =>
    rw [← eq_of_beq hidle]
    exact declares_blank hread hspan hblank x
  · next hcode =>
    have hstatement := of_decide_eq_true hidle
    have hdeclares := declares_statement hread hspan (Bool.not_eq_true _ ▸ hcode) x
    rwa [hstatement] at hdeclares

/-- A line of which nothing but the code is looked at, and that declares nothing. -/
theorem declares_idleLine {x y : Bool} {l : Line}
    (h : isIdle x y (Line.chars indentUnit l.depth l.text.toList) = true) :
    Declares x y (Line.render indentUnit l) [] := by
  rw [Line.render_eq]
  exact declares_of_isIdle String.toList_ofList h

theorem declares_idleLines {x : Bool} {ls : List Line}
    (h : (ls.map fun l => (l.depth, l.text.toList)).all
      (fun l => isIdle x x (Line.chars indentUnit l.1 l.2)) = true) :
    Declares x x (Line.renderAll indentUnit ls) [] := by
  rw [List.all_map, List.all_eq_true] at h
  exact Cutting.tells_idle fun l hl => declares_idleLine (h l hl)

theorem isLayout_of_isNameChar {c : Char} (h : Text.isNameChar c = true) :
    isLayout (.code c) = false := by
  have hne (d : Char) (hd : d ∈ [' ', '\t', '\n', '\r']) : (c == d) = false :=
    beq_eq_false_iff_ne.mpr (Text.ne_layout_of_isNameChar h hd)
  simp only [isLayout, isCode, isLineBreak, hne ' ' (by decide), hne '\t' (by decide),
    hne '\n' (by decide), hne '\r' (by decide), Bool.or_self]

/-- A name in front of punctuation is read back, whatever layout stands before it. -/
theorem word_name {layout : List Mark} (hlayout : ∀ m ∈ layout, isLayout m = true) {n : String}
    (hn : Text.IsIdentifier n) {stop : Char} (hstop : stop ∈ Text.punctuation) (rest : List Mark) :
    word stop (layout ++ Mark.ofCode n ++ .code stop :: rest) = n := by
  have hname (c : Char) (hc : c ∈ n.toList) : (Mark.code c != .code stop) = true := by
    have hne := Text.ne_of_isNameChar (hn.isNameChar c hc) hstop
    simpa using hne
  have hdrop : (Mark.ofCode n ++ .code stop :: rest).dropWhile isLayout =
      Mark.ofCode n ++ .code stop :: rest := by
    cases hs : n.toList with
    | nil => exact absurd hs hn.ne_nil
    | cons c cs =>
      have hc : c ∈ n.toList := by rw [hs]; exact List.mem_cons_self
      simp only [Mark.ofCode, hs, List.map_cons, List.cons_append]
      exact List.dropWhile_cons_of_neg (by simp [isLayout_of_isNameChar (hn.isNameChar c hc)])
  have htake : (Mark.ofCode n ++ .code stop :: rest).takeWhile (· != .code stop) =
      Mark.ofCode n := by
    rw [List.takeWhile_append_of_pos, List.takeWhile_cons_of_neg (by simp), List.append_nil]
    intro m hm
    obtain ⟨c, hc, rfl⟩ := List.mem_map.mp hm
    exact hname c hc
  rw [word, List.append_assoc, List.dropWhile_append_of_pos hlayout, hdrop, htake, Mark.ofCode,
    List.map_map]
  have hchar : Mark.char ∘ Mark.code = id := rfl
  rw [hchar, List.map_id, String.ofList_toList]

/-- A name at the front is read back. -/
theorem word_nil_name {n : String} (hn : Text.IsIdentifier n) {stop : Char}
    (hstop : stop ∈ Text.punctuation) (rest : List Mark) :
    word stop (Mark.ofCode n ++ .code stop :: rest) = n :=
  word_name (List.forall_mem_nil _) hn hstop rest

/-- What stands before the first opening parenthesis is no matter. -/
theorem behindOpen_name {n : String} (hn : Text.IsIdentifier n) (rest : List Mark) :
    behindOpen (Mark.ofCode n ++ .code '(' :: rest) = rest := by
  have hname : ∀ m ∈ Mark.ofCode n, (m != .code '(') = true := by
    intro m hm
    obtain ⟨c, hc, rfl⟩ := List.mem_map.mp hm
    have hne : c ≠ '(' := Text.ne_of_isNameChar (hn.isNameChar c hc) (by decide)
    simpa using hne
  rw [behindOpen, List.dropWhile_append_of_pos hname, List.dropWhile_cons_of_neg (by simp),
    List.drop_one, List.tail_cons]

theorem behind?_append (beginning : String) (rest : List Mark) :
    behind? beginning (Mark.ofCode beginning ++ rest) = some rest :=
  List.dropPrefix?_append_of_beq rest (beq_self_eq_true _)

end Scaffold.Python
