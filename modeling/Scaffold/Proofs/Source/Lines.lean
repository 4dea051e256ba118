import Scaffold.Proofs.Text.Alphabet
import Scaffold.Source.Line

namespace Scaffold

/-- The lines of a text: what stands between its line feeds. A text that ends in a line feed has an empty
line last. -/
def Text.linesOf (s : String) : List String := (splitWhere (· = '\n') s.toList).map String.ofList

/-- What holds no such character stands before the first piece of what is behind it. -/
theorem Text.splitWhere_append_of_forall {p : Char → Bool} {before : List Char}
    (h : ∀ c ∈ before, p c = false) {behind piece : List Char} {pieces : List (List Char)}
    (hs : splitWhere p behind = piece :: pieces) :
    splitWhere p (before ++ behind) = (before ++ piece) :: pieces := by
  induction before with
  | nil => exact hs
  | cons c rest ih =>
    obtain ⟨hc, hrest⟩ := List.forall_mem_cons.mp h
    simp only [List.cons_append, splitWhere, hc, Bool.false_eq_true, if_false, ih hrest]

/-- There is one piece more than such characters. -/
theorem Text.length_splitWhere (p : Char → Bool) (cs : List Char) :
    (splitWhere p cs).length = cs.countP p + 1 := by
  induction cs with
  | nil => rfl
  | cons c rest ih =>
    obtain ⟨piece, pieces, hs⟩ := List.exists_cons_of_ne_nil (splitWhere_ne_nil p rest)
    cases hc : p c with
    | true => simp only [splitWhere, hc, if_true, List.length_cons, ih, List.countP_cons_of_pos]
    | false =>
      rw [hs] at ih
      simp only [splitWhere, hc, Bool.false_eq_true, if_false, hs, List.length_cons, not_false_eq_true,
        List.countP_cons_of_neg] at ih ⊢
      exact ih

/-- A text without line feeds is one line. -/
theorem Text.linesOf_of_not_mem {s : String} (h : '\n' ∉ s.toList) : linesOf s = [s] := by
  have hwhole : splitWhere (· = '\n') s.toList = [s.toList] :=
    splitWhere_of_forall fun c hc => decide_eq_false fun hfeed => h (hfeed ▸ hc)
  rw [linesOf, hwhole, List.map_singleton, String.ofList_toList]

/-- A line feed parts the lines before it from those behind it. -/
theorem Text.linesOf_append_feed (before behind : String) :
    linesOf (before ++ "\n" ++ behind) = linesOf before ++ linesOf behind := by
  have hcut : (before ++ "\n" ++ behind).toList = before.toList ++ '\n' :: behind.toList := by
    simp only [String.toList_append, List.append_assoc]
    rfl
  rw [linesOf, hcut, splitWhere_append_cons (decide_eq_true rfl), List.map_append]
  rfl

/-- A line comes before the lines of what is behind its line feed. -/
theorem Text.linesOf_append {s : String} (h : OneLine s) (rest : String) :
    linesOf (s ++ "\n" ++ rest) = s :: linesOf rest := by
  have hfeed : '\n' ∉ s.toList := fun hc => ((isLineEnd_eq_false_iff _).mp (h _ hc)).1 rfl
  rw [linesOf_append_feed, linesOf_of_not_mem hfeed, List.singleton_append]

/-- Texts that are joined with line feeds have their lines one after the other. -/
theorem Text.linesOf_intercalate {texts : List String} (h : texts ≠ []) :
    linesOf ("\n".intercalate texts) = texts.flatMap linesOf := by
  induction texts with
  | nil => exact absurd rfl h
  | cons text rest ih =>
    cases rest with
    | nil => rw [String.intercalate_singleton, List.flatMap_singleton]
    | cons next rest =>
      rw [String.intercalate_cons_cons, linesOf_append_feed, ih (List.cons_ne_nil next rest),
        ← List.flatMap_cons]

/-- A text without line feeds stands on the first line of what is behind it. -/
theorem Text.linesOf_append_of_not_mem {s : String} (h : '\n' ∉ s.toList) {t first : String}
    {lines : List String} (ht : linesOf t = first :: lines) : linesOf (s ++ t) = (s ++ first) :: lines := by
  obtain ⟨piece, pieces, hpieces, rfl, rfl⟩ := List.map_eq_cons_iff.mp ht
  rw [linesOf, String.toList_append, splitWhere_append_of_forall (fun c hc => ?_) hpieces, List.map_cons,
    String.ofList_append, String.ofList_toList]
  exact decide_eq_false fun hfeed => h (hfeed ▸ hc)

theorem Text.linesOf_ne_nil (s : String) : linesOf s ≠ [] :=
  fun hnil => splitWhere_ne_nil _ _ (List.map_eq_nil_iff.mp hnil)

/-- How many line feeds a text holds. -/
def Text.lineFeeds (s : String) : Nat := s.toList.count '\n'

theorem Text.lineFeeds_eq_zero_iff (s : String) : lineFeeds s = 0 ↔ '\n' ∉ s.toList := List.count_eq_zero

/-- A text has one line more than line feeds. -/
theorem Text.length_linesOf (s : String) : (linesOf s).length = lineFeeds s + 1 := by
  rw [linesOf, List.length_map, length_splitWhere, lineFeeds, List.count_eq_countP]
  rfl

namespace Line

/-- Texts without indentation are written with a line feed behind each. -/
theorem renderAll_block_cons (unit text : String) (texts : List String) :
    renderAll unit (block 0 (text :: texts)) = text ++ "\n" ++ renderAll unit (block 0 texts) := by
  simp only [renderAll, block, List.map_cons, String.join_cons, render_zero]

/-- They are the lines of what is written, and behind them stand the lines of the rest. -/
theorem linesOf_block (unit : String) {texts : List String} (h : ∀ text ∈ texts, Text.OneLine text)
    (rest : String) :
    Text.linesOf (renderAll unit (block 0 texts) ++ rest) = texts ++ Text.linesOf rest := by
  induction texts with
  | nil =>
    rw [block, renderAll, List.map_nil, List.map_nil, String.join_nil, String.empty_append]
    rfl
  | cons text texts ih =>
    obtain ⟨htext, htexts⟩ := List.forall_mem_cons.mp h
    calc Text.linesOf (renderAll unit (block 0 (text :: texts)) ++ rest)
        = Text.linesOf (text ++ "\n" ++ (renderAll unit (block 0 texts) ++ rest)) := by
          rw [renderAll_block_cons, String.append_assoc]
      _ = text :: Text.linesOf (renderAll unit (block 0 texts) ++ rest) := Text.linesOf_append htext _
      _ = text :: texts ++ Text.linesOf rest := by rw [ih htexts, List.cons_append]

end Line

end Scaffold
