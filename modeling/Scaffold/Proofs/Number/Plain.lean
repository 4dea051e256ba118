import Mathlib.Computability.RegularExpressions
import Scaffold.Proofs.Number.Numeral

namespace Scaffold

namespace PlainDecimal

/-- One of several characters. -/
def oneOf (cs : List Char) : RegularExpression Char := (cs.map .char).sum

def digit : RegularExpression Char := oneOf ['0', '1', '2', '3', '4', '5', '6', '7', '8', '9']

/-- A zero, or digits that do not begin with one. -/
def whole : RegularExpression Char :=
  .char '0' + oneOf ['1', '2', '3', '4', '5', '6', '7', '8', '9'] * digit.star

/-- A point and at least one digit. -/
def fraction : RegularExpression Char := .char '.' * (digit * digit.star)

/-- A whole part, and a fraction or none. -/
def unsigned : RegularExpression Char := whole * (1 + fraction)

end PlainDecimal

/-- Decimals without an exponent and without zeros in front: `-?(0|[1-9][0-9]*)(\.[0-9]+)?`. -/
def plainDecimal : RegularExpression Char := (1 + .char '-') * PlainDecimal.unsigned

namespace PlainDecimal

theorem mem_oneOf {cs : List Char} {c : Char} (h : c ∈ cs) : [c] ∈ (oneOf cs).matches' := by
  induction cs with
  | nil => cases h
  | cons d cs ih =>
    have hsum : oneOf (d :: cs) = .char d + oneOf cs := List.sum_cons
    rw [hsum, RegularExpression.matches'_add, Language.mem_add]
    rcases List.mem_cons.mp h with rfl | h
    · exact .inl rfl
    · exact .inr (ih h)

variable {ds fs : List Char}

theorem mem_star_digit (h : ∀ c ∈ ds, c.isDigit = true) : ds ∈ digit.star.matches' := by
  rw [RegularExpression.matches'_star, Language.mem_kstar]
  refine ⟨ds.map fun c => [c], ?_, fun piece hpiece => ?_⟩
  · rw [← List.flatMap_def, List.flatMap_singleton']
  · obtain ⟨c, hc, rfl⟩ := List.mem_map.mp hpiece
    exact mem_oneOf (mem_digits_of_isDigit (h c hc))

/-- Digits that do not begin with a zero are a whole part. -/
theorem mem_whole (h : LeadingDigits ds) : ds ∈ whole.matches' := by
  obtain ⟨d, rest, rfl⟩ := List.exists_cons_of_ne_nil h.ne_nil
  obtain ⟨hd, hrest⟩ := List.forall_mem_cons.mp h.isDigit
  rw [whole, RegularExpression.matches'_add, RegularExpression.matches'_mul, Language.mem_add, Language.mem_mul]
  refine .inr ⟨[d], ?_, rest, mem_star_digit hrest, rfl⟩
  apply mem_oneOf
  rcases List.mem_cons.mp (mem_digits_of_isDigit hd) with rfl | hd
  · exact absurd rfl h.not_zero
  · exact hd

theorem mem_fraction (h : ∀ c ∈ fs, c.isDigit = true) (hne : fs ≠ []) :
    '.' :: fs ∈ fraction.matches' := by
  obtain ⟨d, rest, rfl⟩ := List.exists_cons_of_ne_nil hne
  obtain ⟨hd, hrest⟩ := List.forall_mem_cons.mp h
  simp only [fraction, RegularExpression.matches'_mul, Language.mem_mul]
  exact ⟨['.'], rfl, d :: rest, ⟨[d], mem_oneOf (mem_digits_of_isDigit hd), rest, mem_star_digit hrest, rfl⟩, rfl⟩

/-- A whole part with nothing behind it. -/
theorem mem_unsigned_of_whole (h : ds ∈ whole.matches') : ds ∈ unsigned.matches' := by
  rw [unsigned, RegularExpression.matches'_mul, RegularExpression.matches'_add, Language.mem_mul]
  exact ⟨ds, h, [], .inl rfl, List.append_nil ds⟩

/-- A whole part with a fraction behind it. -/
theorem mem_unsigned_append (h : ds ∈ whole.matches') (hf : fs ∈ fraction.matches') :
    ds ++ fs ∈ unsigned.matches' := by
  rw [unsigned, RegularExpression.matches'_mul, RegularExpression.matches'_add, Language.mem_mul]
  exact ⟨ds, h, fs, .inr hf, rfl⟩

/-- Digits in positional notation are a decimal, wherever the point stands. -/
theorem setPositional_mem_unsigned {layout : NumberLayout} (hlayout : layout.wholeHasFraction = false)
    (hds : LeadingDigits ds) (point : Int) : layout.setPositional ds point ∈ unsigned.matches' := by
  obtain ⟨zeros, -, htext⟩ | ⟨zeros, -, htext⟩ | ⟨n, hpos, hlength, -, htext⟩ :=
    layout.setPositional_cases ds point
  · have hzero : ['0'] ∈ whole.matches' := .inl rfl
    have hbehind : List.replicate zeros '0' ++ ds ≠ [] := List.append_ne_nil_of_right_ne_nil _ hds.ne_nil
    rw [htext]
    exact mem_unsigned_append hzero
      (mem_fraction (List.forall_mem_append.mpr ⟨all_isDigit_zeros _, hds.isDigit⟩) hbehind)
  · rw [htext, hlayout, if_neg Bool.false_ne_true, List.append_nil]
    exact mem_unsigned_of_whole (mem_whole (hds.append_zeros zeros))
  · have hbehind : ds.drop n ≠ [] := by
      rw [ne_eq, List.drop_eq_nil_iff, not_le]
      exact hlength
    rw [htext]
    exact mem_unsigned_append (mem_whole (hds.take hpos))
      (mem_fraction (fun c hc => hds.isDigit c (List.mem_of_mem_drop hc)) hbehind)

theorem setMagnitude_mem_unsigned (m : Magnitude) :
    NumberLayout.plain.setMagnitude m ∈ unsigned.matches' := by
  unfold NumberLayout.setMagnitude
  dsimp only
  split
  · exact mem_unsigned_of_whole (.inl rfl)
  · next hdigits =>
    exact setPositional_mem_unsigned rfl (leadingDigits_toDigits (Nat.pos_of_ne_zero hdigits)) _

end PlainDecimal

/-- The text of a number is a plain decimal exactly when the number is finite. -/
theorem Binary64.text_mem_plainDecimal_iff (x : Binary64) :
    x.text.toList ∈ plainDecimal.matches' ↔ x.isFinite = true := by
  -- The words are held against the expression letter by letter.
  have hword {cs : List Char} (h : plainDecimal.rmatch cs = false) : cs ∉ plainDecimal.matches' := by
    rw [← RegularExpression.rmatch_iff_matches', h]
    exact Bool.false_ne_true
  cases x with
  | nan =>
    have hnan : "NaN".toList ∉ plainDecimal.matches' := hword (by decide)
    exact iff_of_false hnan Bool.false_ne_true
  | infinite negative =>
    have hinfinite : (if negative then "-inf" else "inf").toList ∉ plainDecimal.matches' := by
      cases negative with
      | true => exact hword (by decide)
      | false => exact hword (by decide)
    exact iff_of_false hinfinite Bool.false_ne_true
  | finite negative m =>
    refine iff_of_true ?_ rfl
    have hmagnitude := PlainDecimal.setMagnitude_mem_unsigned m
    rw [plainDecimal, RegularExpression.matches'_mul, RegularExpression.matches'_add, Language.mem_mul]
    simp only [Binary64.text, NumberLayout.set, String.toList_ofList]
    refine ⟨_, ?_, _, hmagnitude, rfl⟩
    cases negative with
    | true => exact .inr rfl
    | false => exact .inl rfl

end Scaffold
