import Scaffold.Proofs.Python.Docstring
import Scaffold.Proofs.Python.Lexer
import Scaffold.Proofs.TypeScript.Lexer

namespace Scaffold

open Text (slashRun takesNext Guarded formatStringChar formatStringText templateChars templateText)

/-- The text with every `c` replaced. -/
def replaceChar (c : Char) (replacement : List Char) (cs : List Char) : List Char :=
  cs.flatMap fun d => if d = c then replacement else [d]

/-- The literal part of an f-string is the text after four replacements, each of which leaves alone what the
ones before it have put in. -/
theorem toList_formatStringText (s : String) :
    (formatStringText s).toList =
      replaceChar '\x7d' ['\x7d', '\x7d'] (replaceChar '\x7b' ['\x7b', '\x7b']
        (replaceChar '"' ['\\', '"'] (replaceChar '\\' ['\\', '\\'] s.toList))) := by
  have hchar (c : Char) : formatStringChar c = replaceChar '\x7d' ['\x7d', '\x7d']
      (replaceChar '\x7b' ['\x7b', '\x7b'] (replaceChar '"' ['\\', '"']
        (if c = '\\' then ['\\', '\\'] else [c]))) := by
    unfold formatStringChar
    split
    · rfl
    split
    · next h => rw [h]; rfl
    split
    · next h => rw [h]; rfl
    split
    · next h => rw [h]; rfl
    · next hquote hopen hclose => simp [replaceChar, hquote, hopen, hclose]
  rw [formatStringText, String.toList_ofList, funext hchar]
  simp only [replaceChar, List.flatMap_assoc]

/-- The text with every backslash and backtick behind a backslash. -/
def escapeTicks (cs : List Char) : List Char :=
  replaceChar '\x60' ['\\', '\x60'] (replaceChar '\\' ['\\', '\\'] cs)

theorem escapeTicks_cons (c : Char) (cs : List Char) :
    escapeTicks (c :: cs) =
      (if c = '\\' ∨ c = '\x60' then ['\\', c] else [c]) ++ escapeTicks cs := by
  by_cases hslash : c = '\\'
  · subst hslash
    rfl
  · by_cases htick : c = '\x60'
    · subst htick
      rfl
    · simp [escapeTicks, replaceChar, hslash, htick]

/-- The text with every opening of a substitution behind a backslash. -/
def escapeHoles : List Char → List Char
  | '$' :: '\x7b' :: rest => '\\' :: '$' :: '\x7b' :: escapeHoles rest
  | c :: rest => c :: escapeHoles rest
  | [] => []

theorem escapeHoles_cons {c : Char} (hc : c ≠ '$') (rest : List Char) :
    escapeHoles (c :: rest) = c :: escapeHoles rest :=
  escapeHoles.eq_2 c rest fun _ h => absurd h hc

/-- The literal part of a template literal is the text after two replacements of the same kind, with a backslash
before every opening of a substitution that is left. -/
theorem toList_templateText (s : String) :
    (templateText s).toList = escapeHoles (escapeTicks s.toList) := by
  have hchars (cs : List Char) : templateChars cs = escapeHoles (escapeTicks cs) := by
    induction cs using Text.templateChars.induct with
    | case1 => rfl
    | case2 rest ih =>
      rw [templateChars, escapeTicks_cons, if_pos (.inl rfl), List.cons_append, escapeHoles_cons (by decide),
        List.singleton_append, escapeHoles_cons (by decide), ih]
    | case3 rest ih =>
      rw [templateChars, escapeTicks_cons, if_pos (.inr rfl), List.cons_append, escapeHoles_cons (by decide),
        List.singleton_append, escapeHoles_cons (by decide), ih]
    | case4 rest ih =>
      rw [templateChars, escapeTicks_cons, escapeTicks_cons, if_neg (by decide), if_neg (by decide), ih]
      rfl
    | case5 c rest hslash htick hhole ih =>
      have hplain : ¬(c = '\\' ∨ c = '\x60') := not_or.mpr ⟨hslash, htick⟩
      rw [Text.templateChars.eq_5 c rest hslash htick hhole, escapeTicks_cons, if_neg hplain, List.singleton_append,
        escapeHoles.eq_2, ih]
      -- No brace comes first in the escaped text unless it does in the text.
      intro after hdollar hafter
      cases rest with
      | nil => cases hafter
      | cons d rest =>
        rw [escapeTicks_cons] at hafter
        split at hafter
        · cases hafter
        · obtain ⟨rfl, -⟩ := List.cons_eq_cons.mp hafter
          exact hhole rest hdollar rfl
  rw [templateText, String.toList_ofList, hchars]

/-- A piece of a literal that is evaluated: a character of its text, or an expression whose value is put in its
place. -/
inductive EchoPiece where
  | char (c : Char)
  | hole (expression : List Char)
deriving DecidableEq, Repr

/-- Puts a piece in front of those that were read. -/
def pushPiece (p : EchoPiece) : Option (List EchoPiece × List Char) → Option (List EchoPiece × List Char) :=
  Option.map fun (ps, rest) => (p :: ps, rest)

/-- Every `mark` in a text stands behind a backslash that takes its first character. -/
def Taken (mark cs : List Char) : Prop :=
  ∀ before after, cs = before ++ mark ++ after → takesNext false before = true

namespace Taken

variable {c d : Char} {mark cs : List Char}

theorem nil (d : Char) (mark : List Char) : Taken (d :: mark) [] := by
  intro before after h
  simp at h

/-- A character that is no backslash and where no mark begins. -/
theorem cons (hc : c ≠ '\\') (hmark : ∀ after, c :: cs ≠ mark ++ after) (h : Taken mark cs) :
    Taken mark (c :: cs) := by
  intro before after hcs
  cases before with
  | nil => exact absurd hcs (hmark after)
  | cons d before =>
    obtain ⟨rfl, hrest⟩ := List.cons_eq_cons.mp hcs
    rw [takesNext, beq_eq_false_iff_ne.mpr hc]
    exact h before after hrest

/-- A backslash with the character that it takes. -/
theorem escape (hd : d ≠ '\\') (h : Taken (d :: mark) cs) : Taken (d :: mark) ('\\' :: c :: cs) := by
  intro before after hcs
  rcases before with _ | ⟨b, _ | ⟨e, before⟩⟩
  · exact absurd (List.cons_eq_cons.mp hcs).1.symm hd
  · obtain ⟨rfl, -⟩ := List.cons_eq_cons.mp hcs
    rfl
  · obtain ⟨rfl, hrest⟩ := List.cons_eq_cons.mp hcs
    obtain ⟨rfl, hbehind⟩ := List.cons_eq_cons.mp hrest
    have hpair : takesNext false ('\\' :: c :: before) = takesNext false before := by
      simp only [takesNext, beq_self_eq_true, Bool.not_false, Bool.and_self, Bool.not_true, Bool.and_false]
    rw [hpair]
    exact h before after hbehind

theorem odd_slashRun (h : Taken mark cs) (before after : List Char) (hcs : cs = before ++ mark ++ after) :
    slashRun before % 2 = 1 :=
  (Text.takesNext_iff_odd_slashRun before).mp (h before after hcs)

end Taken

namespace Python

/-- A character of an expression; there are no literals and no comments in it. -/
def isFieldChar (c : Char) : Bool := c != '"' && c != '#' && c != '\\' && c != '\x7b' && !isLineBreak c

/-- Reads an f-string up to its closing quote, and answers its pieces with what stands behind the quote. Within
a replacement field the first argument is the expression so far. A brace of the text is doubled. A backslash
at the end of a line joins it with the next. Escapes by name, by octal digits and by two or eight hexadecimal
ones are not read, nor is a backslash before a brace. -/
def readFormat? : Option (List Char) → List Char → Option (List EchoPiece × List Char)
  | _, [] => none
  | some expression, c :: rest =>
    if c = '\x7d' then
      if expression = [] then none else pushPiece (.hole expression) (readFormat? none rest)
    else if isFieldChar c then readFormat? (some (expression ++ [c])) rest
    else none
  | none, '"' :: rest => some ([], rest)
  | none, '\x7b' :: '\x7b' :: rest => pushPiece (.char '\x7b') (readFormat? none rest)
  | none, '\x7d' :: '\x7d' :: rest => pushPiece (.char '\x7d') (readFormat? none rest)
  | none, '\x7b' :: rest => readFormat? (some []) rest
  | none, '\\' :: '\n' :: rest => readFormat? none rest
  | none, '\\' :: 'u' :: x :: y :: z :: w :: rest =>
    match Json.hexUnit? x y z w with
    | some n => if n.isValidChar then pushPiece (.char (Char.ofNat n)) (readFormat? none rest) else none
    | none => none
  | none, '\\' :: e :: rest =>
    match escapedChar? e with
    | some c => pushPiece (.char c) (readFormat? none rest)
    | none => none
  | none, c :: rest =>
    if c ≠ '\\' ∧ c ≠ '\x7d' ∧ isLineBreak c = false then pushPiece (.char c) (readFormat? none rest) else none

/-- A character is read back from what it is written as. -/
theorem readFormat?_formatStringChar {c : Char} (hc : isLineBreak c = false) (tail : List Char) :
    readFormat? none (formatStringChar c ++ tail) = pushPiece (.char c) (readFormat? none tail) := by
  unfold formatStringChar
  split
  · next h =>
    subst h
    simp [readFormat?, escapedChar?]
  split
  · next h =>
    subst h
    simp [readFormat?, escapedChar?]
  split
  · next h =>
    subst h
    simp [readFormat?]
  split
  · next h =>
    subst h
    simp [readFormat?]
  · next hslash hquote hopen hclose =>
    simp [readFormat?, hslash, hopen, hclose, hc]

/-- A text in an f-string is read as its characters, whatever the f-string goes on with. -/
theorem readFormat?_flatMap {cs : List Char} (h : ∀ c ∈ cs, isLineBreak c = false) {tail rest : List Char}
    {ps : List EchoPiece} (htail : readFormat? none tail = some (ps, rest)) :
    readFormat? none (cs.flatMap formatStringChar ++ tail) = some (cs.map .char ++ ps, rest) := by
  induction cs with
  | nil => exact htail
  | cons c cs ih =>
    obtain ⟨hc, hcs⟩ := List.forall_mem_cons.mp h
    rw [List.flatMap_cons, List.append_assoc, readFormat?_formatStringChar hc, ih hcs]
    rfl

theorem guarded_formatStringChar (c : Char) : Guarded '"' (formatStringChar c) := by
  unfold formatStringChar
  split
  · exact .pair _ (by decide)
  split
  · exact .pair _ (by decide)
  split
  · exact .of_forall (List.forall_iff_forall_mem.mp (by decide))
  split
  · exact .of_forall (List.forall_iff_forall_mem.mp (by decide))
  · next hslash hquote _ _ => exact .singleton hslash hquote

end Python

namespace TypeScript

/-- The character of an escape by one letter or mark: what has no meaning of its own stands for itself. -/
def escapedChar? (e : Char) : Option Char :=
  match e with
  | 'b' => some '\x08'
  | 'f' => some '\x0c'
  | 'n' => some '\n'
  | 'r' => some '\r'
  | 't' => some '\t'
  | 'v' => some '\x0b'
  | e => if e.isDigit || e == 'x' || e == 'u' then none else some e

/-- Whether a character can stand in an expression of a template; there are no literals and no comments in
it. -/
def isHoleChar (c : Char) : Bool := c != '"' && c != '\'' && c != '\x60' && c != '/' && c != '\x7b'

/-- Reads a template literal up to its closing backtick, and answers its pieces, the characters cooked, with
what stands behind the backtick. Within a substitution the first argument is the expression so far. A carriage
return, alone or with a line feed, is cooked to a line feed, and a backslash at the end of a line joins it with
the next. Escapes by decimal digits, by two hexadecimal ones and by those in braces are not read. -/
def readTemplate? : Option (List Char) → List Char → Option (List EchoPiece × List Char)
  | _, [] => none
  | some expression, c :: rest =>
    if c = '\x7d' then
      if expression = [] then none else pushPiece (.hole expression) (readTemplate? none rest)
    else if isHoleChar c then readTemplate? (some (expression ++ [c])) rest
    else none
  | none, '\x60' :: rest => some ([], rest)
  | none, '$' :: '\x7b' :: rest => readTemplate? (some []) rest
  | none, '\r' :: '\n' :: rest => pushPiece (.char '\n') (readTemplate? none rest)
  | none, '\\' :: '\r' :: '\n' :: rest => readTemplate? none rest
  | none, '\\' :: 'u' :: x :: y :: z :: w :: rest =>
    match Json.hexUnit? x y z w with
    | some n => if n.isValidChar then pushPiece (.char (Char.ofNat n)) (readTemplate? none rest) else none
    | none => none
  | none, '\\' :: e :: rest =>
    if isLineTerminator e then readTemplate? none rest
    else
      match escapedChar? e with
      | some c => pushPiece (.char c) (readTemplate? none rest)
      | none => none
  | none, c :: rest =>
    if c = '\\' then none
    else pushPiece (.char (if c = '\r' then '\n' else c)) (readTemplate? none rest)

variable {c : Char} {cs tail : List Char}

theorem readTemplate?_plain (hslash : c ≠ '\\') (htick : c ≠ '\x60') (hreturn : c ≠ '\r')
    (hhole : ∀ rest, c = '$' → tail = '\x7b' :: rest → False) :
    readTemplate? none (c :: tail) = pushPiece (.char c) (readTemplate? none tail) := by
  rw [readTemplate?.eq_9 c tail htick hhole (fun _ h => absurd h hreturn) (fun _ h => absurd h hslash)
    (fun _ _ _ _ _ h => absurd h hslash) (fun _ _ h => absurd h hslash), if_neg hslash, if_neg hreturn]

theorem readTemplate?_escape {e : Char} (h : escapedChar? e = some c) (hline : isLineTerminator e = false)
    (tail : List Char) :
    readTemplate? none ('\\' :: e :: tail) = pushPiece (.char c) (readTemplate? none tail) := by
  have hreturn : e ≠ '\r' := by
    rintro rfl
    cases hline
  have hunit : e ≠ 'u' := by
    rintro rfl
    cases h
  rw [readTemplate?.eq_8 e tail (fun _ h => absurd h hreturn) (fun _ _ _ _ _ h => absurd h hunit), hline,
    if_neg Bool.false_ne_true, h]

/-- No brace comes first in what is written unless it does in the text. -/
theorem head?_templateChars (h : (templateChars cs).head? = some '\x7b') : cs.head? = some '\x7b' := by
  induction cs using Text.templateChars.induct with
  | case1 => cases h
  | case2 | case3 | case4 => cases h
  | case5 c rest hslash htick hhole =>
    rwa [Text.templateChars.eq_5 c rest hslash htick hhole] at h

/-- A text in a template is read as its characters, whatever the template goes on with, except where that
would open a substitution. -/
theorem readTemplate?_templateChars (h : ∀ c ∈ cs, c ≠ '\r') (htail : tail.head? ≠ some '\x7b')
    {rest : List Char} {ps : List EchoPiece} (hread : readTemplate? none tail = some (ps, rest)) :
    readTemplate? none (templateChars cs ++ tail) = some (cs.map .char ++ ps, rest) := by
  induction cs using Text.templateChars.induct with
  | case1 => exact hread
  | case2 cs ih | case3 cs ih =>
    rw [templateChars, List.cons_append, List.cons_append, readTemplate?_escape (by rfl) (by rfl),
      ih (List.forall_mem_cons.mp h).2]
    rfl
  | case4 cs ih =>
    have hcs := (List.forall_mem_cons.mp (List.forall_mem_cons.mp h).2).2
    rw [templateChars, List.cons_append, List.cons_append, List.cons_append,
      readTemplate?_escape (by rfl) (by rfl),
      readTemplate?_plain (by decide) (by decide) (by decide) (fun _ h => absurd h (by decide)), ih hcs]
    rfl
  | case5 c cs hslash htick hhole ih =>
    obtain ⟨hreturn, hcs⟩ := List.forall_mem_cons.mp h
    -- A dollar sign is left as it stands only where no brace follows it, neither in the text nor behind it.
    have hopen : ∀ after, c = '$' → templateChars cs ++ tail = '\x7b' :: after → False := by
      intro after hdollar hafter
      have hfirst : (templateChars cs ++ tail).head? = some '\x7b' := by rw [hafter, List.head?_cons]
      rw [List.head?_append, Option.or_eq_some_iff] at hfirst
      rcases hfirst with hfirst | ⟨-, hfirst⟩
      · obtain ⟨behind, hbehind⟩ := List.head?_eq_some_iff.mp (head?_templateChars hfirst)
        exact hhole behind hdollar hbehind
      · exact htail hfirst
    rw [Text.templateChars.eq_5 c cs hslash htick hhole, List.cons_append,
      readTemplate?_plain hslash htick hreturn hopen, ih hcs]
    rfl

/-- A mark that no character begins where it is written as it stands, is written behind a backslash. -/
theorem taken_templateChars {d : Char} {mark : List Char} (hslash : d ≠ '\\') (hbrace : d ≠ '\x7b')
    (hmark : ∀ c rest after, c ≠ '\x60' → (∀ behind, c = '$' → rest = '\x7b' :: behind → False) →
      c :: templateChars rest ≠ d :: mark ++ after) (cs : List Char) :
    Taken (d :: mark) (templateChars cs) := by
  induction cs using Text.templateChars.induct with
  | case1 => exact .nil d mark
  | case2 cs ih | case3 cs ih => exact .escape hslash ih
  | case4 cs ih =>
    refine .escape hslash (.cons (by decide) (fun after h => ?_) ih)
    exact hbrace (List.cons_eq_cons.mp h).1.symm
  | case5 c cs hc htick hhole ih =>
    rw [Text.templateChars.eq_5 c cs hc htick hhole]
    exact .cons hc (fun after => hmark c cs after htick hhole) ih

theorem taken_tick (cs : List Char) : Taken ['\x60'] (templateChars cs) := by
  refine taken_templateChars (by decide) (by decide) (fun c rest after htick _ h => ?_) cs
  exact htick (List.cons_eq_cons.mp h).1

theorem taken_opening (cs : List Char) : Taken ['$', '\x7b'] (templateChars cs) := by
  refine taken_templateChars (by decide) (by decide) (fun c rest after _ hhole h => ?_) cs
  obtain ⟨hdollar, hafter⟩ := List.cons_eq_cons.mp h
  have hfirst : (templateChars rest).head? = some '\x7b' := by
    rw [hafter]
    rfl
  obtain ⟨behind, hbehind⟩ := List.head?_eq_some_iff.mp (head?_templateChars hfirst)
  exact hhole behind hdollar hbehind

end TypeScript

/-- The text of an echo is faithful, if no line breaks in it. Between the quotes of an f-string it is read as
its characters, up to the closing quote and with no expression among them, and every quote in what is written
stands behind an odd run of backslashes. Between the backticks of a template literal it is read alike, and
every backtick and every opening of a substitution stands behind such a run. -/
theorem echo_text_faithful {text : String} (h : ∀ c ∈ text.toList, Python.isLineBreak c = false) :
    (∀ rest, Python.readFormat? none ((formatStringText text).toList ++ '"' :: rest) =
        some (text.toList.map .char, rest)) ∧
      (∀ before after, (formatStringText text).toList = before ++ '"' :: after → slashRun before % 2 = 1) ∧
      (∀ rest, TypeScript.readTemplate? none ((templateText text).toList ++ '\x60' :: rest) =
        some (text.toList.map .char, rest)) ∧
      (∀ before after, (templateText text).toList = before ++ '\x60' :: after → slashRun before % 2 = 1) ∧
      ∀ before after, (templateText text).toList = before ++ '$' :: '\x7b' :: after →
        slashRun before % 2 = 1 := by
  have hformat : (formatStringText text).toList = text.toList.flatMap formatStringChar := by
    rw [formatStringText, String.toList_ofList]
  have htemplate : (templateText text).toList = templateChars text.toList := by
    rw [templateText, String.toList_ofList]
  have hguarded := Guarded.flatMap Python.guarded_formatStringChar text.toList
  have hreturn : ∀ c ∈ text.toList, c ≠ '\r' := by
    intro c hc hreturn
    exact Bool.false_ne_true ((h c hc).symm.trans (by rw [hreturn]; rfl))
  rw [hformat, htemplate]
  have htick := (TypeScript.taken_tick text.toList).odd_slashRun
  have hopening := (TypeScript.taken_opening text.toList).odd_slashRun
  refine ⟨fun rest => ?_, fun before after hcs => hguarded.odd_slashRun hcs, fun rest => ?_,
    fun before after hcs => htick before after (hcs.trans (List.append_cons ..)),
    fun before after hcs => hopening before after (hcs.trans ?_)⟩
  · have hclose : Python.readFormat? none ('"' :: rest) = some ([], rest) := by rfl
    rw [Python.readFormat?_flatMap h hclose, List.append_nil]
  · have hclose : TypeScript.readTemplate? none ('\x60' :: rest) = some ([], rest) := by rfl
    rw [TypeScript.readTemplate?_templateChars hreturn (by rw [List.head?_cons]; decide) hclose,
      List.append_nil]
  · rw [List.append_assoc]
    rfl

/-- A text of nothing but the marks that mean something in one of the literals. -/
theorem echo_text_faithful_marks :
    let text := "\\\"\x7b\x60$\x7bx\x7d$"
    (∀ c ∈ text.toList, Python.isLineBreak c = false) ∧
      formatStringText text = "\\\\\\\"\x7b\x7b\x60$\x7b\x7bx\x7d\x7d$" ∧
      Python.readFormat? none ((formatStringText text).toList ++ ['"']) = some (text.toList.map .char, []) ∧
      templateText text = "\\\\\"\x7b\\\x60\\$\x7bx\x7d$" ∧
      TypeScript.readTemplate? none ((templateText text).toList ++ ['\x60']) =
        some (text.toList.map .char, []) := by
  intro text
  have hline : ∀ c ∈ text.toList, Python.isLineBreak c = false := List.forall_iff_forall_mem.mp (by decide)
  obtain ⟨hformat, -, htemplate, -⟩ := echo_text_faithful hline
  exact ⟨hline, by decide, hformat [], by decide, htemplate []⟩

end Scaffold
