import Mathlib.Data.List.DropRight
import Scaffold.Proofs.Text.Quoted

/-!
Runs of backslashes. A character is taken by a backslash before it exactly when the run of backslashes
that ends there is odd. A text in which a mark is always taken, and whose end takes nothing, can be put
beside another one of that kind.
-/

namespace Scaffold.Text

/-- The number of backslashes at the end of a text. -/
def slashRun (cs : List Char) : ℕ := (cs.rtakeWhile (· == '\\')).length

/-- Whether a backslash at the end of a text takes the character behind the text. `taken` says whether
one takes the first character of the text. -/
def takesNext (taken : Bool) : List Char → Bool
  | [] => taken
  | c :: rest => takesNext (c == '\\' && !taken) rest

theorem takesNext_append (taken : Bool) (a b : List Char) :
    takesNext taken (a ++ b) = takesNext (takesNext taken a) b := by
  induction a generalizing taken with
  | nil => rfl
  | cons c a ih => exact ih _

/-- Backslashes take each other in pairs, so an odd run takes the next character. -/
theorem takesNext_iff_odd_slashRun (cs : List Char) : takesNext false cs = true ↔ slashRun cs % 2 = 1 := by
  -- Induction from the end of the text, where both sides look.
  induction cs using List.reverseRecOn with
  | nil => exact iff_of_false Bool.false_ne_true (by decide)
  | append_singleton cs c ih =>
    rw [takesNext_append, takesNext, takesNext]
    by_cases hc : c = '\\'
    · subst hc
      have hrun : slashRun (cs ++ ['\\']) = slashRun cs + 1 := by
        rw [slashRun, List.rtakeWhile_concat_pos (· == '\\') _ _ (beq_self_eq_true '\\'), List.length_append,
          List.length_singleton, slashRun]
      rw [beq_self_eq_true, Bool.true_and, hrun, Bool.not_eq_true', ← Bool.not_eq_true, ih]
      omega
    · have hne : ¬(c == '\\') = true := by rwa [beq_iff_eq]
      have hrun : slashRun (cs ++ [c]) = 0 := by
        rw [slashRun, List.rtakeWhile_concat_neg (· == '\\') _ _ hne, List.length_nil]
      rw [Bool.not_eq_true] at hne
      rw [hne, hrun, Bool.false_and]
      exact iff_of_false Bool.false_ne_true (by decide)

/-- A text in which every `mark` is taken by a backslash of the text, and whose end takes nothing. -/
structure Guarded (mark : Char) (cs : List Char) : Prop where
  ends : takesNext false cs = false
  marks : ∀ before after, cs = before ++ mark :: after → takesNext false before = true

namespace Guarded

variable {mark : Char} {a b cs : List Char}

theorem nil (mark : Char) : Guarded mark [] where
  ends := rfl
  marks before after h := by simp at h

theorem append (ha : Guarded mark a) (hb : Guarded mark b) : Guarded mark (a ++ b) where
  ends := by rw [takesNext_append, ha.ends, hb.ends]
  marks before after h := by
    rcases List.append_eq_append_iff.mp h with ⟨middle, rfl, hmiddle⟩ | ⟨middle, rfl, hmiddle⟩
    · -- The mark stands in the second text.
      rw [takesNext_append, ha.ends]
      exact hb.marks middle after hmiddle
    · cases middle with
      | nil =>
        have hfirst := hb.marks [] after hmiddle.symm
        cases hfirst
      | cons d middle =>
        obtain ⟨rfl, -⟩ := List.cons_eq_cons.mp hmiddle
        exact ha.marks before middle rfl

theorem flatMap {f : Char → List Char} (h : ∀ c, Guarded mark (f c)) (cs : List Char) :
    Guarded mark (cs.flatMap f) := by
  induction cs with
  | nil => exact .nil mark
  | cons c cs ih => exact (h c).append ih

/-- A character that is neither a backslash nor the mark. -/
theorem singleton {c : Char} (hslash : c ≠ '\\') (hmark : c ≠ mark) : Guarded mark [c] where
  ends := by
    rw [takesNext, takesNext, beq_eq_false_iff_ne.mpr hslash]
    rfl
  marks before after h := by
    have hmem : mark ∈ [c] := h ▸ List.mem_append_right before List.mem_cons_self
    exact absurd (List.mem_singleton.mp hmem).symm hmark

/-- Characters among which is neither a backslash nor the mark. -/
theorem of_forall (h : ∀ c ∈ cs, c ≠ '\\' ∧ c ≠ mark) : Guarded mark cs := by
  induction cs with
  | nil => exact .nil mark
  | cons c cs ih =>
    obtain ⟨hc, hrest⟩ := List.forall_mem_cons.mp h
    exact (singleton hc.1 hc.2).append (ih hrest)

/-- A backslash and the character that it takes. -/
theorem pair (e : Char) (hmark : mark ≠ '\\') : Guarded mark ['\\', e] where
  ends := by
    simp only [takesNext, beq_self_eq_true, Bool.not_false, Bool.and_self, Bool.not_true, Bool.and_false]
  marks before after h := by
    match before, h with
    | [], h => exact absurd (List.cons_eq_cons.mp h).1.symm hmark
    | [d], h =>
      obtain ⟨rfl, -⟩ := List.cons_eq_cons.mp h
      rfl
    | _ :: _ :: before, h =>
      have hlength := congrArg List.length h
      simp at hlength

theorem escape (hmark : mark ≠ '\\') (hinert : isInert mark = false) (h : IsEscape cs) :
    Guarded mark cs := by
  obtain ⟨e, rest, rfl, -, hrest⟩ := h
  refine (pair e hmark).append (of_forall fun d hd => ?_)
  have hd' := hrest d hd
  refine ⟨((isInert_iff d).mp hd').2.1, ?_⟩
  rintro rfl
  rw [hinert] at hd'
  cases hd'

/-- Every mark stands behind an odd run of backslashes. -/
theorem odd_slashRun (h : Guarded mark cs) {before after : List Char} (hcs : cs = before ++ mark :: after) :
    slashRun before % 2 = 1 :=
  (takesNext_iff_odd_slashRun before).mp (h.marks before after hcs)

/-- The run of backslashes at the end is even. -/
theorem even_slashRun (h : Guarded mark cs) : slashRun cs % 2 = 0 := by
  have hodd := (takesNext_iff_odd_slashRun cs).not.mp (by rw [h.ends]; exact Bool.false_ne_true)
  omega

end Guarded

end Scaffold.Text
