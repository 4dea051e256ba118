import Scaffold.Proofs.Python.Names

namespace Scaffold.Python

open Mark (isCode spans)

/-- The first word of a piece of code, up to the layout behind it. -/
def firstWord (ms : List Mark) : String :=
  String.ofList (((ms.dropWhile isLayout).takeWhile fun m => !isLayout m).map Mark.char)

/-- The names in a list with commas between them. -/
def namesIn (ms : List Mark) : List String := (Mark.splitOutside isComma 0 ms).map firstWord

/-- What stands behind the first space, if the marks there begin so. -/
def behindSpace? (beginning : String) (ms : List Mark) : Option (List Mark) :=
  behind? beginning (ms.dropWhile (· != .code ' '))

/-- The names that one statement binds at the top level. -/
def bindingsOf (line : List Mark) : List String :=
  if line.head? = some (.code ' ') then []
  else
    match behind? "import " line, behind? "from " line, behind? "class " line,
      behind? "async def " line with
    | some rest, _, _, _ => namesIn rest
    | _, some rest, _, _ => ((behindSpace? " import " rest).map namesIn).getD []
    | _, _, some rest, _ => [word '(' rest]
    | _, _, _, some rest => [word '(' rest]
    -- What is left is an assignment, or an expression that binds nothing.
    | none, none, none, none => if (behindSpace? " = " line).isSome then [firstWord line] else []

/-- The reader of statements; it needs no state. -/
def binder : Machine (List Mark) Unit String := ⟨fun _ line => ((), bindingsOf line)⟩

/-- The names that a source binds at its top level, in order. -/
def bindings (source : String) : List String := (binder.run () (statements (lex source).2)).2

/-- A text binds these names, wherever it stands between statements. -/
abbrev Binds (s : String) (names : List String) : Prop := cutting.Tells binder () () s names

variable {limits : Limits} {s : String}

theorem binds_statement {ms : List Mark} (h : cutting.Cuts s [ms]) : Binds s (bindingsOf ms) :=
  Cutting.tells_piece (m := binder) h

/-- The names that a line with these characters binds, if the line can be read by itself. -/
def lineBindings? (cs : List Char) : Option (List String) :=
  let ms := (lexer.run .start cs).2
  if endsLine cs && spans isBreak 0 0 ms then
    some (if ms.all Mark.isSpace then [] else bindingsOf ms)
  else none

theorem binds_line {l : Line} {names : List String}
    (h : lineBindings? (Line.chars indentUnit l.depth l.text.toList) = some names) :
    Binds (Line.render indentUnit l) names := by
  rw [Line.render_eq]
  generalize Line.chars indentUnit l.depth l.text.toList = cs at h
  simp only [lineBindings?, Option.ite_none_right_eq_some, Option.some.injEq, Bool.and_eq_true] at h
  obtain ⟨⟨hend, hspan⟩, hnames⟩ := h
  have hread : lexer.Reads AtStart InLine (String.ofList cs) (lexer.run .start cs).2 := by
    rintro _ rfl
    rw [String.toList_ofList]
    exact ⟨inLine_of_endsLine hend, rfl⟩
  by_cases hblank : (lexer.run .start cs).2.all Mark.isSpace = true
  · rw [if_pos hblank] at hnames
    rw [← hnames]
    exact Cutting.tells_nothing (cuts_blank hread hspan hblank)
  · rw [if_neg hblank] at hnames
    rw [← hnames]
    exact binds_statement (cuts_statement hread hspan (by simpa using hblank))

/-- The names that lines bind, each of which can be read by itself. -/
def blockBindings? : List (Nat × List Char) → Option (List String)
  | [] => some []
  | l :: rest =>
    match lineBindings? (Line.chars indentUnit l.1 l.2), blockBindings? rest with
    | some names, some others => some (names ++ others)
    | _, _ => none

theorem binds_lines {ls : List Line} {names : List String}
    (h : blockBindings? (ls.map fun l => (l.depth, l.text.toList)) = some names) :
    Binds (Line.renderAll indentUnit ls) names := by
  induction ls generalizing names with
  | nil =>
    cases h
    exact Cutting.tells_nil _ _ ()
  | cons l rest ih =>
    rw [List.map_cons, blockBindings?] at h
    split at h
    · next first others hfirst hothers =>
      cases h
      exact Cutting.tells_cons (binds_line hfirst) (ih hothers)
    · cases h

end Scaffold.Python
