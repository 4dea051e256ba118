import Scaffold.Text.LineEnd

namespace Scaffold

/-- A written line: how deep it is indented, and its text. -/
structure Line where
  depth : Nat
  text : String
deriving DecidableEq, Repr

namespace Line

/-- The empty line. -/
def blank : Line := ⟨0, ""⟩

/-- Several texts as lines of one depth. -/
def block (depth : Nat) (texts : List String) : List Line := texts.map fun t => ⟨depth, t⟩

/-- A text as comment lines, each behind the marker. -/
def comment (depth : Nat) (marker text : String) : List Line :=
  (Text.commentLines text).map fun l =>
    ⟨depth, if l.isEmpty then marker else marker ++ " " ++ l⟩

/-- The line as it is written, `unit` for each level of depth. An empty line has no indentation. -/
def render (unit : String) (l : Line) : String :=
  if l.text.isEmpty then "\n"
  else String.join (List.replicate l.depth unit) ++ l.text ++ "\n"

/-- The lines as they are written. -/
def renderAll (unit : String) (ls : List Line) : String := String.join (ls.map (render unit))

/-- A line with a text on it. -/
theorem render_of_ne_empty (unit : String) {depth : Nat} {text : String} (h : text ≠ "") :
    render unit ⟨depth, text⟩ = String.join (List.replicate depth unit) ++ text ++ "\n" := by
  simp only [render, String.isEmpty_iff, h, if_false]

/-- A line at the margin. -/
theorem render_zero (unit text : String) : render unit ⟨0, text⟩ = text ++ "\n" := by
  by_cases h : text = ""
  · rw [h]
    rfl
  · simp only [render_of_ne_empty unit h, List.replicate_zero, String.join_nil, String.empty_append]

/-- Lines are written one after the other. -/
theorem renderAll_append (unit : String) (before after : List Line) :
    renderAll unit (before ++ after) = renderAll unit before ++ renderAll unit after := by
  simp only [renderAll, List.map_append, String.join_append]

end Line

end Scaffold
