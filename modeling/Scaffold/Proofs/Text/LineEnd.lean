import Scaffold.Proofs.Text.Quoted

namespace Scaffold.Text

/-- Whether the character ends a line, but not one that was written as a line. -/
def isStray (c : Char) : Bool := c = '\r' || isWideLineEnd c

/-- The text holds no stray end of a line. -/
def Clean (s : String) : Prop := ∀ c ∈ s.toList, isStray c = false

instance (s : String) : Decidable (Clean s) :=
  decidable_of_iff ((s.toList.all fun c => !isStray c) = true) (by simp [Clean])

/-- What holds of no stray end of a line holds of other characters only. -/
theorem isStray_eq_false {p : Char → Bool} {c : Char} (h : p c = true)
    (hp : (['\r', '\u0085', '\u2028', '\u2029'].all fun d => !p d) = true) : isStray c = false := by
  by_contra hstray
  have hmem : c ∈ ['\r', '\u0085', '\u2028', '\u2029'] := by
    simpa only [isStray, isWideLineEnd, Bool.not_eq_false, Bool.or_eq_true, decide_eq_true_eq, or_assoc,
      List.mem_cons, List.not_mem_nil, or_false] using hstray
  have hnot := List.all_eq_true.mp hp c hmem
  rw [h] at hnot
  cases hnot

theorem isStray_of_isLineEnd {c : Char} (h : isLineEnd c = false) : isStray c = false := by
  refine isStray_eq_false (p := fun d => !isLineEnd d) ?_ (by decide)
  rw [h]
  rfl

theorem OneLine.clean {s : String} (h : OneLine s) : Clean s := fun c hc =>
  isStray_of_isLineEnd (h c hc)

theorem IsIdentifier.clean {s : String} (h : IsIdentifier s) : Clean s := h.oneLine.clean

theorem clean_of_numberText {s : String} (h : NumberText s.toList) : Clean s := fun c hc =>
  isStray_eq_false (h c hc) (by decide)

theorem clean_ofList {cs : List Char} : Clean (String.ofList cs) ↔ ∀ c ∈ cs, isStray c = false := by
  rw [Clean, String.toList_ofList]

/-- A text that stands in source as it is in the generator. -/
theorem clean_literal {cs : List Char} :
    Clean (String.ofList cs) ↔ (cs.all fun c => !isStray c) = true := by
  simp only [clean_ofList, List.all_eq_true, Bool.not_eq_true']

theorem clean_append {s t : String} : Clean (s ++ t) ↔ Clean s ∧ Clean t := by
  simp only [Clean, String.toList_append, List.forall_mem_append]

theorem clean_join {xs : List String} : Clean (String.join xs) ↔ ∀ x ∈ xs, Clean x := by
  simp only [Clean, String.toList_join, List.mem_flatMap, forall_exists_index, and_imp]
  exact ⟨fun h x hx c hc => h c x hx hc, fun h c x hx hc => h x hx c hc⟩

theorem clean_intercalate {sep : String} (hsep : Clean sep) {xs : List String} :
    Clean (sep.intercalate xs) ↔ ∀ x ∈ xs, Clean x := by
  induction xs with
  | nil => exact iff_of_true (fun c hc => absurd hc List.not_mem_nil) fun x hx => absurd hx List.not_mem_nil
  | cons x xs ih =>
    cases xs with
    | nil => rw [String.intercalate_singleton, List.forall_mem_singleton]
    | cons y ys =>
      rw [String.intercalate_cons_cons, clean_append, clean_append, ih, and_iff_left hsep]
      exact List.forall_mem_cons.symm

theorem isStray_of_mem_escape {cs : List Char} (h : IsEscape cs) {c : Char} (hc : c ∈ cs) :
    isStray c = false := isStray_of_isLineEnd (isLineEnd_of_mem_escape h hc)

theorem clean_quote (s : String) : Clean (quote s) := (oneLine_quote s).clean

theorem clean_docstringBody (s : String) : Clean (docstringBody s) := by
  refine clean_ofList.mpr fun c hc => ?_
  obtain ⟨d, -, hc⟩ := List.mem_flatMap.mp hc
  unfold docstringChar at hc
  split at hc
  · exact (by decide : Clean "\\\\") c hc
  split at hc
  · exact (by decide : Clean "\\\"") c hc
  split at hc
  · next h =>
    rw [List.mem_singleton.mp hc]
    exact isStray_eq_false (p := fun d => decide (d = '\n') || decide (d = '\t')) h (by decide)
  split at hc
  · exact (by decide : Clean "\\r") c hc
  split at hc
  · exact isStray_of_mem_escape (isEscape_hexEscape _) hc
  · next hreturn hwide =>
    rw [List.mem_singleton.mp hc, isStray, decide_eq_false hreturn, Bool.false_or]
    exact (Bool.or_eq_false_iff.mp (Bool.eq_false_iff.mpr hwide)).2

theorem clean_flatten (s : String) : Clean (flatten s) := (oneLine_flatten s).clean

theorem clean_docCommentText {s : String} (h : Clean s) : Clean (docCommentText s) := by
  intro c hc
  rcases mem_docCommentText hc with hc | rfl
  · exact h c hc
  · rfl

/-- A regular expression keeps the next line, and this end of a line only. -/
theorem isStray_regexChar {escaped : Bool} {c : Char} :
    (∀ d ∈ regexChar escaped c, isStray d = false) ↔ c ≠ '\u0085' := by
  unfold regexChar
  split
  · next h => exact iff_of_true (by decide : Clean "\\n") (by rw [h]; decide)
  split
  · next h => exact iff_of_true (by decide : Clean "\\r") (by rw [h]; decide)
  split
  · next h =>
    refine iff_of_true (fun d hd => isStray_of_mem_escape (isEscape_hexEscape _) hd) ?_
    rintro rfl
    cases h
  split
  · next h =>
    refine iff_of_true (by decide : Clean "\\/") ?_
    rintro rfl
    cases h
  · next hn hr hwide _ =>
    simp only [Bool.or_eq_true, decide_eq_true_eq, not_or] at hwide
    rw [List.forall_mem_singleton]
    simp [isStray, isWideLineEnd, hr, hwide.1, hwide.2]

/-- The body of a regular expression literal holds a stray end of a line only where the pattern holds the
one that ECMAScript does not take for one. -/
theorem clean_regexBody_iff (pattern : String) :
    Clean (regexBody pattern) ↔ '\u0085' ∉ pattern.toList := by
  have hchars (cs : List Char) (escaped : Bool) :
      (∀ c ∈ regexChars escaped cs, isStray c = false) ↔ '\u0085' ∉ cs := by
    induction cs generalizing escaped with
    | nil =>
      have hslash : Clean "\\" := by decide
      cases escaped with
      | true => exact iff_of_true hslash List.not_mem_nil
      | false => exact iff_of_true (fun c hc => absurd hc List.not_mem_nil) List.not_mem_nil
    | cons c rest ih =>
      rw [regexChars, List.forall_mem_append, isStray_regexChar, ih, List.mem_cons, not_or]
      exact and_congr_left' ne_comm
  rw [regexBody, clean_ofList, hchars]

end Scaffold.Text
