import Scaffold.Text.CharSet

namespace Scaffold.Text

/-- The white space characters: the property `White_Space`. -/
def blank : CharSet := ⟨[
  0x9, 0xe, 0x20, 0x21, 0x85, 0x86, 0xa0, 0xa1, 0x1680, 0x1681, 0x2000, 0x200b, 0x2028, 0x202a,
  0x202f, 0x2030, 0x205f, 0x2060, 0x3000, 0x3001]⟩

/-- Whether a character is white space. -/
def isBlank (c : Char) : Bool := blank.contains c

/-- Whether a character is a control character: the general category `Cc`. -/
def isControl (c : Char) : Bool :=
  c.toNat < 0x20 || (0x7f ≤ c.toNat && c.toNat < 0xa0)

/-- The characters without the blanks at their end. -/
def dropBlankEnd : List Char → List Char
  | [] => []
  | c :: rest =>
    match dropBlankEnd rest with
    | [] => if isBlank c then [] else [c]
    | kept => c :: kept

/-- The characters without the blanks at either end. -/
def stripBlanks (cs : List Char) : List Char := dropBlankEnd (cs.dropWhile isBlank)

/-- Whether a text holds nothing but blanks. -/
def allBlank (s : String) : Bool := s.toList.all isBlank

/-- The text without the blanks at either end. -/
def trim (s : String) : String := String.ofList (stripBlanks s.toList)

/-- The text without the blanks at its end. -/
def trimEnd (s : String) : String := String.ofList (dropBlankEnd s.toList)

/-- The longest pieces without a blank, in order. -/
def words : List Char → List (List Char)
  | [] => []
  | c :: rest =>
    if isBlank c then words rest
    else match rest, words rest with
      | d :: _, w :: ws => if isBlank d then [c] :: w :: ws else (c :: w) :: ws
      | _, ws => [c] :: ws

/-- No word is empty, and no word holds a blank. -/
theorem isBlank_of_mem_words (cs : List Char) :
    ∀ w ∈ words cs, w ≠ [] ∧ ∀ c ∈ w, isBlank c = false := by
  induction cs with
  | nil => intro w hw; cases hw
  | cons d rest ih =>
    intro w hw
    unfold words at hw
    split at hw
    · exact ih w hw
    · next hd =>
      have hd : isBlank d = false := by simpa using hd
      have hone : [d] ≠ [] ∧ ∀ c ∈ [d], isBlank c = false := by
        refine ⟨List.cons_ne_nil d [], fun c hc => ?_⟩
        rw [List.mem_singleton.mp hc, hd]
      split at hw
      · next first ws hs =>
        split at hw
        · rcases List.mem_cons.mp hw with rfl | hw
          · exact hone
          · exact ih w (by simpa only [hs] using hw)
        · rcases List.mem_cons.mp hw with rfl | hw
          · refine ⟨List.cons_ne_nil d first, fun c hc => ?_⟩
            rcases List.mem_cons.mp hc with rfl | hc
            · exact hd
            · exact (ih first (by simp only [hs, List.mem_cons, true_or])).2 c hc
          · exact ih w (by simp only [hs, List.mem_cons, hw, or_true])
      · rcases List.mem_cons.mp hw with rfl | hw
        · exact hone
        · exact ih w hw

/-- The text on one line: its words with one space between each two. -/
def flatten (s : String) : String := " ".intercalate ((words s.toList).map String.ofList)

/-- The only blanks on the line are the spaces between the words. -/
theorem eq_space_of_mem_flatten {s : String} {c : Char} (hc : c ∈ (flatten s).toList)
    (hb : isBlank c = true) : c = ' ' := by
  have hwords (ws : List (List Char)) (h : ∀ w ∈ ws, ∀ d ∈ w, isBlank d = false)
      (hc : c ∈ (" ".intercalate (ws.map String.ofList)).toList) : c = ' ' := by
    induction ws with
    | nil => cases hc
    | cons w rest ih =>
      obtain ⟨hw, hrest⟩ := List.forall_mem_cons.mp h
      have hout : c ∉ w := fun hm => by simp [hw c hm] at hb
      cases rest with
      | nil => simp [hout] at hc
      | cons w' rest =>
        simp only [List.map_cons, String.intercalate_cons_cons, String.toList_append,
          String.toList_ofList, List.mem_append, hout, false_or] at hc
        rcases hc with hc | hc
        · simpa using hc
        · exact ih hrest hc
  exact hwords _ (fun w hw => (isBlank_of_mem_words _ w hw).2) hc

end Scaffold.Text
