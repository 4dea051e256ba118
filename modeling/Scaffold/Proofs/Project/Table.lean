import Mathlib.Data.List.Count
import Scaffold.Proofs.Project.Readme
import Scaffold.Proofs.Text.Marks

/-!
The table of the parameters of a tool, as a Markdown reader takes it apart: a row is parted at its bars, but
for those that a backslash takes, and backslashes take each other in pairs. The type of a parameter never
parts its cell. A description does if it has a bar that a backslash of its own takes: the backslash that is
written before the bar is then taken itself.
-/

namespace Scaffold

open Text

/-- The pieces of a text between the bars that no backslash takes; there is always at least one. `taken` says
whether a backslash takes the first character. -/
def splitBars (taken : Bool) : List Char → List (List Char)
  | [] => [[]]
  | c :: rest =>
    if c = '|' ∧ taken = false then [] :: splitBars false rest
    else match splitBars (c == '\\' && !taken) rest with
      | [] => [[c]]
      | piece :: pieces => (c :: piece) :: pieces

/-- The cells of a row: its pieces, without what stands before the first bar and behind the last one. -/
def rowCells (row : String) : List (List Char) := ((splitBars false row.toList).drop 1).dropLast

theorem length_splitBars (taken : Bool) (cs : List Char) :
    (splitBars taken cs).length = (marksTaken '|' taken cs).count false + 1 := by
  induction cs generalizing taken with
  | nil => rfl
  | cons c cs ih =>
    rw [splitBars, marksTaken, List.count_append]
    by_cases hbar : c = '|' ∧ taken = false
    · obtain ⟨rfl, rfl⟩ := hbar
      simp [ih, Nat.add_comm]
    · -- The character stays in its piece: it is another one, or a bar that is taken.
      have hcount : (if c = '|' then [taken] else []).count false = 0 := by
        split
        · next hc =>
          have htaken : taken = true := by simpa [hc] using hbar
          rw [htaken]
          rfl
        · rfl
      have hrest := ih (c == '\\' && !taken)
      rw [if_neg hbar, hcount, Nat.zero_add, ← hrest]
      cases hpieces : splitBars (c == '\\' && !taken) cs with
      | nil => simp [hpieces] at hrest
      | cons piece pieces => rfl

theorem length_rowCells (row : String) :
    (rowCells row).length = (marksTaken '|' false row.toList).count false - 1 := by
  rw [rowCells, List.length_dropLast, List.length_drop, length_splitBars]
  rfl

/-- Every bar of a cell is taken exactly if it was free before. -/
theorem marksTaken_escapeBars (taken : Bool) (cs : List Char) :
    marksTaken '|' taken (escapeBars cs) = (marksTaken '|' taken cs).map (!·) := by
  induction cs generalizing taken with
  | nil => rfl
  | cons c cs ih =>
    rw [escapeBars]
    split
    · next hc =>
      subst hc
      simp [marksTaken, ih]
    · next hc => simp [marksTaken, ih, hc]

theorem marksTaken_tableCell (s : String) :
    marksTaken '|' false (tableCell s).toList = (marksTaken '|' false s.toList).map (!·) := by
  rw [tableCell, String.toList_ofList, marksTaken_escapeBars, marksTaken_flatten (by decide)]

theorem oneLine_tableCell (s : String) : OneLine (tableCell s) := by
  have hmem (cs : List Char) (c : Char) (hc : c ∈ escapeBars cs) : c ∈ cs ∨ c = '\\' := by
    induction cs with
    | nil => cases hc
    | cons d cs ih =>
      rw [escapeBars] at hc
      split at hc
      · next hd =>
        rw [List.mem_cons, List.mem_cons] at hc
        rcases hc with rfl | rfl | hc
        · exact .inr rfl
        · exact .inl (hd ▸ List.mem_cons_self)
        · exact (ih hc).imp_left (List.mem_cons_of_mem d)
      · rcases List.mem_cons.mp hc with rfl | hc
        · exact .inl List.mem_cons_self
        · exact (ih hc).imp_left (List.mem_cons_of_mem d)
  intro c hc
  rw [tableCell, String.toList_ofList] at hc
  rcases hmem _ c hc with hc | rfl
  · exact oneLine_flatten s c hc
  · rfl

/-- Every bar of a text stands behind an odd run of backslashes, so that none of them parts a row. -/
def BarsEscaped (s : String) : Prop :=
  ∀ before after, s.toList = before ++ '|' :: after → slashRun before % 2 = 1

/-- Every bar of a text stands behind an even run of backslashes, or behind none. -/
def BarsPlain (s : String) : Prop :=
  ∀ before after, s.toList = before ++ '|' :: after → slashRun before % 2 = 0

/-- The bars of a cell are escaped exactly if those of its text were plain. -/
theorem barsEscaped_tableCell_iff (s : String) : BarsEscaped (tableCell s) ↔ BarsPlain s := by
  rw [BarsEscaped, BarsPlain, ← forall_marksTaken_iff_odd, ← forall_marksTaken_iff_even,
    marksTaken_tableCell, List.forall_mem_map]
  simp only [Bool.not_eq_true']

theorem Python.bare_typeToken (p : Parameter) : Bare '|' (Python.declare p).typeToken.toList := by
  simp only [Python.declare, Python.fragment, Fragment.resolve]
  cases p.alternatives with
  | none => cases p.type <;> exact .of_all (by decide)
  | some values =>
    have hopener : Bare '|' "Literal[".toList := .of_all (by decide)
    have hcloser : Bare '|' "]".toList := .of_all (by decide)
    have hvalues : Bare '|' (", ".intercalate (quoteAll values)).toList := by
      refine .intercalate (.of_all (by decide)) fun x hx => ?_
      obtain ⟨value, -, rfl⟩ := List.mem_map.mp hx
      exact .quote (by decide) value
    simp only [Option.map_some, Option.getD_some, Python.literalType, String.toList_append]
    exact (hopener.append hvalues).append hcloser

theorem TypeScript.bare_typeToken (p : Parameter) : Bare '|' (TypeScript.declare p).typeToken.toList := by
  simp only [TypeScript.declare]
  cases p.alternatives with
  | none => cases p.type <;> exact .of_all (by decide)
  | some values =>
    refine .intercalate (.of_all (by decide)) fun x hx => ?_
    obtain ⟨value, -, rfl⟩ := List.mem_map.mp hx
    exact .quote (by decide) value

/-- The bars of a type stand between its literals or in them, and a literal doubles its backslashes. -/
theorem barsPlain_typeToken (l : Language) (p : Parameter) : BarsPlain (l.declare p).typeToken := by
  have hbare : Bare '|' (l.declare p).typeToken.toList := by
    cases l with
    | python => exact Python.bare_typeToken p
    | typeScript => exact TypeScript.bare_typeToken p
  exact forall_marksTaken_iff_even.mp hbare.marks

/-- The row of a parameter in the table of its tool: the cells of its type and of its description are on one
line. No bar of the type parts the row, and a bar of the description does exactly if a backslash of the
description takes it. -/
structure ParamSummary.IsRowOf (p : Parameter) (q : ParamSummary) : Prop where
  oneLine_type : OneLine q.typeName
  oneLine_description : OneLine q.description
  barsEscaped_type : BarsEscaped q.typeName
  barsEscaped_description : BarsEscaped q.description ↔ BarsPlain p.description
  length_cells : (rowCells q.row).length =
    3 + (marksTaken '|' false p.identifier.toList).count false +
      (marksTaken '|' false p.description.toList).count true

/-- The marks of a row are the four bars around its cells, and those in the cells. -/
theorem ParamSummary.marksTaken_row (q : ParamSummary) :
    marksTaken '|' false q.row.toList =
      [false] ++ marksTaken '|' false q.name.toList ++ [false] ++ marksTaken '|' false q.typeName.toList ++
        [false] ++ marksTaken '|' false q.description.toList ++ [false] := by
  have hopening : marksTaken '|' false "| `".toList = [false] ∧ takesNext false "| `".toList = false := by
    decide
  -- What stands behind a cell begins with a character that takes no part, so the end of the cell is no matter.
  have hframe (taken : Bool) : ∀ frame ∈ ["` | `", "` | ", " |\n"],
      marksTaken '|' taken frame.toList = [false] ∧ takesNext taken frame.toList = false := by
    cases taken <;> decide
  simp only [List.forall_mem_cons, List.not_mem_nil, false_imp_iff, implies_true, and_true] at hframe
  simp only [ParamSummary.row, String.toList_append, marksTaken_append, takesNext_append, hopening,
    (hframe _).1, (hframe _).2.1, (hframe _).2.2]

theorem isRowOf_summary (l : Language) (p : Parameter) : (l.declare p).summary.IsRowOf p := by
  have hname : (l.declare p).summary.name = p.identifier := by cases l <;> rfl
  have htype : (l.declare p).summary.typeName = tableCell (l.declare p).typeToken := rfl
  have hdescription : (l.declare p).summary.description = tableCell p.description := by cases l <;> rfl
  have hplain := barsPlain_typeToken l p
  have hescaped : BarsEscaped (tableCell (l.declare p).typeToken) :=
    (barsEscaped_tableCell_iff _).mpr hplain
  -- No bar of the type is free in its cell; of the description, those are free that were taken.
  have htypeCount : (marksTaken '|' false (tableCell (l.declare p).typeToken).toList).count false = 0 := by
    rw [List.count_eq_zero]
    intro hmem
    have h := forall_marksTaken_iff_odd.mpr hescaped false hmem
    cases h
  have hdescriptionCount : (marksTaken '|' false (tableCell p.description).toList).count false =
      (marksTaken '|' false p.description.toList).count true := by
    rw [marksTaken_tableCell]
    exact List.count_map_of_injective _ (!·) (fun _ _ => Bool.not_inj) true
  refine ⟨?_, ?_, ?_, ?_, ?_⟩
  · exact htype ▸ oneLine_tableCell _
  · exact hdescription ▸ oneLine_tableCell _
  · exact htype ▸ hescaped
  · rw [hdescription]
    exact barsEscaped_tableCell_iff p.description
  · rw [length_rowCells, ParamSummary.marksTaken_row, hname, htype, hdescription]
    simp only [List.count_append, htypeCount, hdescriptionCount, List.count_singleton_self]
    omega

/-- The rows of the parameters of a server, tool by tool. -/
theorem Server.isRowOf_context (s : Server) (settings : Settings) :
    List.Forall₂ (fun t u => List.Forall₂ (fun p q => q.IsRowOf p) t.parameters u.params) s.tools
      (s.toModule.context settings).tools := by
  have htools : (s.toModule.context settings).tools =
      s.tools.map fun t => (t.declare s.language).summary := by
    simp [Module.context, Server.toModule, Server.moduleIn]
  rw [htools, List.forall₂_map_right_iff, List.forall₂_same]
  intro t _
  have hparams : ((t.declare s.language).summary).params =
      t.parameters.map fun p => (s.language.declare p).summary := by
    simp [ToolDecl.summary, Tool.declare]
  rw [hparams, List.forall₂_map_right_iff, List.forall₂_same]
  exact fun p _ => isRowOf_summary s.language p

/-- A bar behind a backslash parts the row: the cell ends behind the backslashes before it. -/
theorem Server.not_forall_barsEscaped_context :
    ¬∀ (s : Server) (settings : Settings), ∀ u ∈ (s.toModule.context settings).tools, ∀ q ∈ u.params,
      BarsEscaped q.typeName ∧ BarsEscaped q.description ∧ OneLine q.typeName ∧ OneLine q.description ∧
        (rowCells q.row).length = 3 := by
  intro h
  let s : Server := {
    name := "Demo"
    description := "Demo server"
    language := .python
    tools := [{
      name := "search"
      description := "Searches"
      parameters := [{ name := "query", type := .string, description := "a\\|b" }] }] }
  -- In the cell, two backslashes stand before the bar.
  obtain ⟨-, hbars, -⟩ := h s {} _ (List.mem_singleton.mpr rfl) _ (List.mem_singleton.mpr rfl)
  have hodd := hbars ['a', '\\', '\\'] ['b'] (by decide)
  exact absurd hodd (by decide)

end Scaffold
