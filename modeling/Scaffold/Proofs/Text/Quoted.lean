import Scaffold.Proofs.Text.Alphabet
import Scaffold.Text.Embedded

namespace Scaffold.Text

/-- A character that no reader of a string literal stops at: it neither ends the literal nor escapes
the next character, and it ends no line. -/
def isInert (c : Char) : Bool := c != '"' && c != '\\' && !isLineEnd c

theorem isInert_iff (c : Char) :
    isInert c = true ↔ c ≠ '"' ∧ c ≠ '\\' ∧ isLineEnd c = false := by
  simp only [isInert, Bool.and_eq_true, bne_iff_ne, Bool.not_eq_true', and_assoc]

/-- An escape: a backslash, the character that it takes, and characters that no reader stops at. -/
def IsEscape (cs : List Char) : Prop :=
  ∃ e rest, cs = '\\' :: e :: rest ∧ isLineEnd e = false ∧ ∀ d ∈ rest, isInert d = true

theorem isInert_digitChar {k : Nat} (h : k < 16) : isInert (Nat.digitChar k) = true := by
  have hall : ∀ k < 16, isInert (Nat.digitChar k) = true := by decide
  exact hall k h

theorem isEscape_hexEscape (n : Nat) : IsEscape (hexEscape n) := by
  refine ⟨'u', _, rfl, rfl, fun d hd => ?_⟩
  simp only [List.mem_cons, List.not_mem_nil, or_false] at hd
  rcases hd with rfl | rfl | rfl | rfl <;> exact isInert_digitChar (Nat.mod_lt _ (by decide))

/-- A character of a quoted text is written as itself or as an escape. -/
theorem sourceChar_cases (c : Char) :
    (sourceChar c = [c] ∧ isInert c = true) ∨ IsEscape (sourceChar c) := by
  have hpair (e : Char) (he : isLineEnd e = false) : IsEscape ['\\', e] :=
    ⟨e, [], rfl, he, fun _ hd => absurd hd List.not_mem_nil⟩
  unfold sourceChar
  split
  · exact .inr (isEscape_hexEscape _)
  · next hw =>
    unfold jsonChar
    split
    · exact .inr (hpair '"' rfl)
    split
    · exact .inr (hpair '\\' rfl)
    split
    · exact .inr (hpair 'b' rfl)
    split
    · exact .inr (hpair 'f' rfl)
    split
    · exact .inr (hpair 'n' rfl)
    split
    · exact .inr (hpair 'r' rfl)
    split
    · exact .inr (hpair 't' rfl)
    split
    · exact .inr (isEscape_hexEscape _)
    · next hquote hslash hb hf hn hr ht hlow =>
      -- A vertical tab is a control character below the space, so it has been escaped.
      have hv : c ≠ '\x0b' := fun h => hlow (by rw [h]; decide)
      refine .inl ⟨rfl, (isInert_iff c).mpr ⟨hquote, hslash, ?_⟩⟩
      exact (isLineEnd_eq_false_iff c).mpr ⟨hn, hr, hv, hf, by simpa using hw⟩

theorem isLineEnd_of_mem_escape {cs : List Char} (h : IsEscape cs) {c : Char} (hc : c ∈ cs) :
    isLineEnd c = false := by
  obtain ⟨e, rest, rfl, he, hrest⟩ := h
  rw [List.mem_cons, List.mem_cons] at hc
  rcases hc with rfl | rfl | hc
  · rfl
  · exact he
  · exact ((isInert_iff c).mp (hrest c hc)).2.2

/-- A string literal is written on one line. -/
theorem oneLine_quote (s : String) : OneLine (quote s) := by
  intro c hc
  simp only [quote, quoteWith, String.toList_ofList, List.mem_cons, List.mem_append, List.mem_flatMap,
    List.not_mem_nil, or_false] at hc
  rcases hc with rfl | ⟨d, -, hc⟩ | rfl
  · rfl
  · rcases sourceChar_cases d with ⟨hd, hinert⟩ | hescape
    · rw [hd, List.mem_singleton] at hc
      exact hc ▸ ((isInert_iff d).mp hinert).2.2
    · exact isLineEnd_of_mem_escape hescape hc
  · rfl

/-- Every end of a line is a blank. -/
theorem isBlank_of_isLineEnd {c : Char} (h : isLineEnd c = true) : isBlank c = true := by
  simp only [isLineEnd, isWideLineEnd, Bool.or_eq_true, decide_eq_true_eq, or_assoc] at h
  rcases h with rfl | rfl | rfl | rfl | rfl | rfl | rfl <;> decide

/-- A text that is laid flat is one line. -/
theorem oneLine_flatten (s : String) : OneLine (flatten s) := by
  intro c hc
  by_contra hend
  have hblank := isBlank_of_isLineEnd ((Bool.not_eq_false _).mp hend)
  rw [eq_space_of_mem_flatten hc hblank] at hend
  exact hend rfl

/-- A documentation comment shows the characters of the text and backslashes. -/
theorem mem_docCommentText {s : String} {c : Char} (hc : c ∈ (docCommentText s).toList) :
    c ∈ s.toList ∨ c = '\\' := by
  have hchars (cs : List Char) (hc : c ∈ docCommentChars cs) : c ∈ cs ∨ c = '\\' := by
    induction cs using docCommentChars.induct with
    | case1 => cases hc
    | case2 rest ih =>
      rw [docCommentChars] at hc
      simp only [List.mem_cons] at hc ⊢
      rcases hc with h | h | h | h
      · exact .inl (.inl h)
      · exact .inr h
      · exact .inl (.inr (.inl h))
      · exact (ih h).imp_left fun h => .inr (.inr h)
    | case3 d rest hne ih =>
      rw [docCommentChars.eq_3 _ _ hne] at hc
      rcases List.mem_cons.mp hc with rfl | h
      · exact .inl List.mem_cons_self
      · exact (ih h).imp_left (List.mem_cons_of_mem d)
  rw [docCommentText, String.toList_ofList] at hc
  exact hchars _ hc

theorem OneLine.docCommentText {s : String} (h : OneLine s) : OneLine (docCommentText s) := by
  intro c hc
  rcases mem_docCommentText hc with hc | rfl
  · exact h c hc
  · rfl

/-- A character of a docstring is written as itself or as an escape; a line feed stays. -/
theorem docstringChar_cases (c : Char) :
    (docstringChar c = [c] ∧ c ≠ '"' ∧ c ≠ '\\' ∧ c ≠ '\r') ∨ IsEscape (docstringChar c) := by
  have hpair (e : Char) (he : isLineEnd e = false) : IsEscape ['\\', e] :=
    ⟨e, [], rfl, he, fun _ hd => absurd hd List.not_mem_nil⟩
  unfold docstringChar
  split
  · exact .inr (hpair '\\' rfl)
  split
  · exact .inr (hpair '"' rfl)
  split
  · next hslash hquote h =>
    refine .inl ⟨rfl, hquote, hslash, ?_⟩
    simp only [Bool.or_eq_true, decide_eq_true_eq] at h
    rcases h with rfl | rfl <;> decide
  split
  · exact .inr (hpair 'r' rfl)
  split
  · exact .inr (isEscape_hexEscape _)
  · next hslash hquote _ hr _ => exact .inl ⟨rfl, hquote, hslash, hr⟩

end Scaffold.Text
