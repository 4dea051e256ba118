import Scaffold.Proofs.Source.Mark

namespace Scaffold.Mark

/-- Whether the mark opens a bracket. -/
def opens : Mark → Bool := isCode fun c => c == '(' || c == '[' || c == '\x7b'

/-- Whether the mark closes a bracket. -/
def closes : Mark → Bool := isCode fun c => c == ')' || c == ']' || c == '\x7d'

/-- How many brackets are open behind the mark. -/
def depthAfter (depth : Nat) (m : Mark) : Nat :=
  if m.opens then depth + 1 else if m.closes then depth - 1 else depth

/-- The pieces between the marks with `p` that stand outside all brackets, if `depth` brackets have been
opened before. -/
def splitOutside (p : Mark → Bool) : Nat → List Mark → List (List Mark)
  | _, [] => [[]]
  | depth, m :: rest =>
    if depth = 0 ∧ p m = true then [] :: splitOutside p 0 rest
    else (splitOutside p (depthAfter depth m) rest).modifyHead (m :: ·)

/-- What stands before the first bracket that closes more than has been opened. -/
def untilClosed : Nat → List Mark → List Mark
  | _, [] => []
  | depth, m :: rest =>
    if depth = 0 ∧ m.closes = true then [] else m :: untilClosed (depthAfter depth m) rest

/-- Whether the marks lead from `a` open brackets to `b`, with no mark with `p` outside all brackets and
without closing more than has been opened. -/
def spans (p : Mark → Bool) : Nat → Nat → List Mark → Bool
  | a, b, [] => a == b
  | a, b, m :: rest => !(a == 0 && (p m || m.closes)) && spans p (depthAfter a m) b rest

/-- Whether the mark is neither an opening nor a closing bracket. -/
def isFlat (m : Mark) : Bool := !m.opens && !m.closes

variable {p q : Mark → Bool} {a b c : Nat} {xs ys : List Mark}

theorem spans_append (hx : spans p a b xs = true) (hy : spans p b c ys = true) :
    spans p a c (xs ++ ys) = true := by
  induction xs generalizing a with
  | nil =>
    rw [eq_of_beq hx]
    exact hy
  | cons m rest ih =>
    simp only [spans, Bool.and_eq_true] at hx
    simp only [List.cons_append, spans, Bool.and_eq_true]
    exact ⟨hx.1, ih hx.2⟩

/-- A piece that spans is not split. -/
theorem splitOutside_append (hx : spans p a b xs = true) (ys : List Mark) :
    splitOutside p a (xs ++ ys) = (splitOutside p b ys).modifyHead (xs ++ ·) := by
  induction xs generalizing a with
  | nil =>
    rw [eq_of_beq hx, List.nil_append]
    cases splitOutside p b ys <;> rfl
  | cons m rest ih =>
    simp only [spans, Bool.and_eq_true, Bool.not_eq_true'] at hx
    have hstay : ¬ (a = 0 ∧ p m = true) := by
      rintro ⟨rfl, hm⟩
      simp [hm] at hx
    rw [List.cons_append, splitOutside, if_neg hstay, ih hx.2, List.modifyHead_modifyHead]
    rfl

/-- Nothing closes within a piece that spans. -/
theorem untilClosed_append (hx : spans p a b xs = true) (ys : List Mark) :
    untilClosed a (xs ++ ys) = xs ++ untilClosed b ys := by
  induction xs generalizing a with
  | nil =>
    rw [eq_of_beq hx]
    rfl
  | cons m rest ih =>
    simp only [spans, Bool.and_eq_true, Bool.not_eq_true'] at hx
    have hstay : ¬ (a = 0 ∧ m.closes = true) := by
      rintro ⟨rfl, hm⟩
      simp [hm] at hx
    rw [List.cons_append, untilClosed, if_neg hstay, ih hx.2, List.cons_append]

/-- Fewer marks to avoid. -/
theorem spans_mono (h : ∀ m, q m = true → p m = true) (hx : spans p a b xs = true) :
    spans q a b xs = true := by
  induction xs generalizing a with
  | nil => exact hx
  | cons m rest ih =>
    simp only [spans, Bool.and_eq_true, Bool.not_eq_true', Bool.and_eq_false_iff,
      Bool.or_eq_false_iff] at hx ⊢
    refine ⟨hx.1.imp_right fun ⟨hp, hc⟩ => ⟨?_, hc⟩, ih hx.2⟩
    cases hq : q m with
    | false => rfl
    | true => exact absurd (h m hq) (by simp [hp])

/-- One more bracket around a piece that spans. -/
theorem spans_succ (hx : spans p a b xs = true) : spans p (a + 1) (b + 1) xs = true := by
  induction xs generalizing a with
  | nil =>
    rw [eq_of_beq hx]
    exact beq_self_eq_true (b + 1)
  | cons m rest ih =>
    simp only [spans, Bool.and_eq_true, Bool.not_eq_true', Bool.and_eq_false_iff,
      Bool.or_eq_false_iff] at hx
    have hdepth : depthAfter (a + 1) m = depthAfter a m + 1 := by
      unfold depthAfter
      split
      · rfl
      · split
        · next hc =>
          rcases hx.1 with ha | ⟨-, hf⟩
          · have ha : a ≠ 0 := by simpa using ha
            omega
          · rw [hc] at hf
            cases hf
        · rfl
    simp only [spans, hdepth, ih hx.2, Bool.and_true]
    simp

theorem depthAfter_of_isFlat {m : Mark} (h : m.isFlat = true) (a : Nat) : depthAfter a m = a := by
  simp only [isFlat, Bool.and_eq_true, Bool.not_eq_true'] at h
  simp only [depthAfter, h.1, h.2, Bool.false_eq_true, if_false]

/-- Marks that are no brackets, and outside all brackets none with `p`. -/
theorem spans_of_isFlat (h : ∀ m ∈ xs, m.isFlat = true ∧ p m = false) (a : Nat) :
    spans p a a xs = true := by
  induction xs with
  | nil => exact beq_self_eq_true a
  | cons m rest ih =>
    obtain ⟨⟨hm, hp⟩, hrest⟩ := List.forall_mem_cons.mp h
    have hc : m.closes = false := by
      simp only [isFlat, Bool.and_eq_true, Bool.not_eq_true'] at hm
      exact hm.2
    simp only [spans, depthAfter_of_isFlat hm, ih hrest, hp, hc, Bool.or_self, Bool.and_false,
      Bool.not_false, Bool.and_self]

/-- Marks that are no brackets, inside of some bracket. -/
theorem spans_inside (h : ∀ m ∈ xs, m.isFlat = true) (a : Nat) :
    spans p (a + 1) (a + 1) xs = true := by
  induction xs with
  | nil => exact beq_self_eq_true (a + 1)
  | cons m rest ih =>
    obtain ⟨hm, hrest⟩ := List.forall_mem_cons.mp h
    simp only [spans, depthAfter_of_isFlat hm, ih hrest, Bool.and_true]
    simp

end Scaffold.Mark
