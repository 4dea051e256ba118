import Scaffold.Json.Basic

namespace Scaffold

namespace Binary64

/-- The quotient of numbers 52 powers of two apart has all the bits of a significand. -/
theorem le_divNearest {num den : Nat} (hlow : 2 ^ 52 * den ≤ num) (hhigh : num < 2 ^ 53 * den) :
    2 ^ 52 ≤ divNearest num den ∧ divNearest num den ≤ 2 ^ 53 := by
  have hden : 0 < den := Nat.pos_of_ne_zero (by rintro rfl; simp at hhigh)
  have hle : 2 ^ 52 ≤ num / den := (Nat.le_div_iff_mul_le hden).mpr hlow
  have hlt : num / den < 2 ^ 53 := (Nat.div_lt_iff_lt_mul hden).mpr hhigh
  unfold divNearest
  dsimp only
  split <;> omega

theorem exponentOf_one {n : Nat} (hpos : n ≠ 0) : exponentOf n 1 = (n.log2 : Int) - 52 := by
  have hlog : (1 : Nat).log2 = 0 := by decide
  have hle : 1 * 2 ^ ((n.log2 : Int) - (0 : Nat)).toNat ≤
      n * 2 ^ (-((n.log2 : Int) - (0 : Nat))).toNat := by
    have hzero : (-((n.log2 : Int) - (0 : Nat))).toNat = 0 := by omega
    have hself : ((n.log2 : Int) - (0 : Nat)).toNat = n.log2 := by omega
    rw [hzero, hself, Nat.one_mul, Nat.pow_zero, Nat.mul_one]
    exact Nat.log2_self_le hpos
  unfold exponentOf
  dsimp only
  rw [hlog, if_pos hle]
  omega

theorem isFinite_ofParts (negative : Bool) {significand : Nat} {exponent : Int}
    (h : FitsBinary64 significand exponent) : (ofParts negative significand exponent).isFinite = true := by
  rw [ofParts, dif_pos h]
  rfl

/-- The number nearest to a whole number of 64 bits is finite. -/
theorem isFinite_ofRatio_one (negative : Bool) {n : Nat} (h : n < 2 ^ 64) :
    (ofRatio negative n 1).isFinite = true := by
  rcases Nat.eq_zero_or_pos n with rfl | hpos
  · rfl
  have hne := Nat.ne_of_gt hpos
  have hlog : n.log2 < 64 := (Nat.log2_lt hne).mpr h
  -- Scaled by its exponent the number lies between the powers of two that enclose a significand.
  have hscaled (a b : Nat) (hab : n.log2 + a = 52 + b) :
      2 ^ 52 * (1 * 2 ^ b) ≤ n * 2 ^ a ∧ n * 2 ^ a < 2 ^ 53 * (1 * 2 ^ b) := by
    constructor
    · calc 2 ^ 52 * (1 * 2 ^ b) = 2 ^ n.log2 * 2 ^ a := by
            rw [Nat.one_mul, ← Nat.pow_add, ← Nat.pow_add, hab]
        _ ≤ n * 2 ^ a := Nat.mul_le_mul_right _ (Nat.log2_self_le hne)
    · calc n * 2 ^ a < 2 ^ (n.log2 + 1) * 2 ^ a :=
            Nat.mul_lt_mul_of_pos_right Nat.lt_log2_self (Nat.two_pow_pos a)
        _ = 2 ^ 53 * (1 * 2 ^ b) := by
            rw [Nat.one_mul, ← Nat.pow_add, ← Nat.pow_add]
            congr 1
            omega
  obtain ⟨hlow, hhigh⟩ := hscaled (-((n.log2 : Int) - 52)).toNat ((n.log2 : Int) - 52).toNat (by omega)
  obtain ⟨hleast, hgreatest⟩ := le_divNearest hlow hhigh
  rw [ofRatio, if_neg hne, exponentOf_one hne]
  dsimp only
  split
  · exact isFinite_ofParts negative ⟨by decide, by omega, by omega, .inl (Nat.le_refl _)⟩
  · next hcarry =>
    exact isFinite_ofParts negative
      ⟨Nat.lt_of_le_of_ne hgreatest hcarry, by omega, by omega, .inl hleast⟩

end Binary64

/-- A number of a JSON text is finite as a floating point number. -/
theorem JsonNumber.isFinite_toBinary64 (n : JsonNumber) : n.toBinary64.isFinite = true := by
  cases n with
  | natural n => exact Binary64.isFinite_ofRatio_one false n.toNat_lt
  | negative n bounds =>
    exact Binary64.isFinite_ofRatio_one true (Nat.lt_of_le_of_lt bounds.2 (by decide))
  | fraction => rfl

end Scaffold
