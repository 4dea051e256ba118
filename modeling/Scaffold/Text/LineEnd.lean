import Scaffold.Text.Blank

namespace Scaffold.Text

/-- The line ends beyond ASCII: next line, line separator and paragraph separator. -/
def isWideLineEnd (c : Char) : Bool := c = '\u0085' || c = '\u2028' || c = '\u2029'

/-- Whether some reader of source text ends a line at this character. -/
def isLineEnd (c : Char) : Bool :=
  c = '\n' || c = '\r' || c = '\x0b' || c = '\x0c' || isWideLineEnd c

/-- The characters with every pair of carriage return and line feed made one line feed. -/
def joinReturns : List Char → List Char
  | [] => []
  | '\r' :: '\n' :: rest => '\n' :: joinReturns rest
  | c :: rest => c :: joinReturns rest

/-- The pieces between the characters that satisfy `p`; there is always at least one piece. -/
def splitWhere (p : Char → Bool) : List Char → List (List Char)
  | [] => [[]]
  | c :: rest =>
    if p c then [] :: splitWhere p rest
    else match splitWhere p rest with
      | [] => [[c]]
      | piece :: pieces => (c :: piece) :: pieces

/-- There is always at least one piece. -/
theorem splitWhere_ne_nil (p : Char → Bool) (cs : List Char) : splitWhere p cs ≠ [] := by
  cases cs with
  | nil => exact List.cons_ne_nil _ _
  | cons c rest =>
    unfold splitWhere
    split
    · exact List.cons_ne_nil _ _
    · split <;> exact List.cons_ne_nil _ _

/-- No piece holds a character that satisfies `p`. -/
theorem of_mem_splitWhere (p : Char → Bool) (cs : List Char) :
    ∀ piece ∈ splitWhere p cs, ∀ c ∈ piece, p c = false := by
  induction cs with
  | nil =>
    intro piece hp c hc
    rw [List.mem_singleton.mp hp] at hc
    cases hc
  | cons d rest ih =>
    intro piece hp c hc
    unfold splitWhere at hp
    split at hp
    · rcases List.mem_cons.mp hp with rfl | hp
      · cases hc
      · exact ih piece hp c hc
    · next hd =>
      have hd : p d = false := by simpa using hd
      split at hp
      · next hs => exact absurd hs (splitWhere_ne_nil p rest)
      · next first pieces hs =>
        rcases List.mem_cons.mp hp with rfl | hp
        · rcases List.mem_cons.mp hc with rfl | hc
          · exact hd
          · exact ih first (by simp only [hs, List.mem_cons, true_or]) c hc
        · exact ih piece (by simp only [hs, List.mem_cons, hp, or_true]) c hc

/-- What holds no such character is one piece. -/
theorem splitWhere_of_forall {p : Char → Bool} {cs : List Char} (h : ∀ c ∈ cs, p c = false) :
    splitWhere p cs = [cs] := by
  induction cs with
  | nil => rfl
  | cons c rest ih =>
    obtain ⟨hc, hrest⟩ := List.forall_mem_cons.mp h
    simp only [splitWhere, hc, Bool.false_eq_true, if_false, ih hrest]

/-- Such a character parts the pieces before it from those behind it. -/
theorem splitWhere_append_cons {p : Char → Bool} {c : Char} (hc : p c = true)
    (before behind : List Char) :
    splitWhere p (before ++ c :: behind) = splitWhere p before ++ splitWhere p behind := by
  induction before with
  | nil => simp only [List.nil_append, splitWhere, hc, if_true, List.singleton_append]
  | cons d rest ih =>
    obtain ⟨piece, pieces, hs⟩ := List.exists_cons_of_ne_nil (splitWhere_ne_nil p rest)
    cases hd : p d <;> simp [splitWhere, hd, ih, hs]

/-- A character as a comment shows it: a control character other than the tab becomes a space. -/
def commentChar (c : Char) : Char := if isControl c && c != '\t' then ' ' else c

/-- The list without the empty pieces at its end. -/
def dropEmptyEnd : List (List Char) → List (List Char)
  | [] => []
  | piece :: rest =>
    match dropEmptyEnd rest with
    | [] => if piece.isEmpty then [] else [piece]
    | kept => piece :: kept

/-- The lines of a text as a comment shows them. Every line end splits, a carriage return and the
line feed after it together; blanks at the end of a line and empty lines at the end of the text are
dropped, but one line always remains. -/
def commentLines (s : String) : List String :=
  let lines := (splitWhere isLineEnd (joinReturns s.toList)).map
    fun line => dropBlankEnd (line.map commentChar)
  match dropEmptyEnd lines with
  | [] => [""]
  | kept => kept.map String.ofList

end Scaffold.Text
