import Scaffold.Proofs.TypeScript.Names

namespace Scaffold.TypeScript

/-- The names that one line binds at the top level, and whether the next line stands inside of a
declaration. -/
def bindLine (inside : Bool) (line : List Char) : Bool × List String :=
  if inside then ((behind? "\x7d);" line).isNone, [])
  else
    match behind? "import " line, behind? "const " line with
    | some rest, _ => (false, namesIn rest)
    | none, some rest => (line.getLast? == some '\x7b', [word ' ' rest])
    | none, none => (false, [])

/-- The reader of lines; its state says whether they stand inside of a declaration. -/
def binder : Machine (List Char) Bool String := ⟨bindLine⟩

/-- The names that a source binds at its top level, in order. -/
def bindings (source : String) : List String := (binder.run false (sourceLines source.toList)).2

/-- A text binds these names, wherever it stands between lines. -/
abbrev Binds (x y : Bool) (s : String) (names : List String) : Prop := cutting.Tells binder x y s names

variable {limits : Limits} {p : Parameter} {x y : Bool}

/-- What lines bind, if each of them is one line for the reader too. -/
def blockBindings? (x : Bool) (ls : List (Nat × List Char)) : Option (Bool × List String) :=
  let lines := ls.map fun l => Line.chars indentUnit l.1 l.2
  if lines.all fun cs => cs.all fun c => !isLineTerminator c then some (binder.run x lines) else none

theorem cuts_lines {ls : List Line}
    (h : ∀ l ∈ ls, ∀ c ∈ Line.chars indentUnit l.depth l.text.toList, isLineTerminator c = false) :
    cutting.Cuts (Line.renderAll indentUnit ls)
      (ls.map fun l => Line.chars indentUnit l.depth l.text.toList) := by
  induction ls with
  | nil => exact cutting.empty
  | cons l rest ih =>
    obtain ⟨hl, hrest⟩ := List.forall_mem_cons.mp h
    have hunbroken : unbroken (String.ofList (Line.chars indentUnit l.depth l.text.toList)) = true := by
      rw [unbroken_iff, String.toList_ofList]
      exact hl
    have hline := cuts_line hunbroken
    rw [String.toList_ofList, ← Line.render_eq] at hline
    rw [Line.renderAll, List.map_cons, String.join_cons, List.map_cons]
    exact cutting.append hline (ih hrest)

/-- Fixed lines. -/
theorem binds_lines {ls : List Line} {names : List String}
    (h : blockBindings? x (ls.map fun l => (l.depth, l.text.toList)) = some (y, names)) :
    Binds x y (Line.renderAll indentUnit ls) names := by
  simp only [blockBindings?, Option.ite_none_right_eq_some, Option.some.injEq, List.map_map,
    List.all_map, List.all_eq_true, Function.comp_apply, Bool.not_eq_true'] at h
  obtain ⟨hunbroken, hrun⟩ := h
  exact ⟨_, cuts_lines hunbroken, hrun⟩

theorem binds_line {l : Line} {names : List String}
    (h : blockBindings? x [(l.depth, l.text.toList)] = some (y, names)) :
    Binds x y (Line.render indentUnit l) names := by
  have hlines : Binds x y (Line.renderAll indentUnit [l]) names := binds_lines h
  rwa [Line.renderAll, List.map_singleton, String.join_cons, String.join_nil,
    String.append_empty] at hlines

end Scaffold.TypeScript
