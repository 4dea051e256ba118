import Mathlib.Algebra.Order.Field.Power
import Mathlib.Data.Int.Log
import Mathlib.Data.Rat.Floor
import Mathlib.Tactic.FieldSimp
import Mathlib.Tactic.Linarith
import Mathlib.Tactic.NormNum
import Mathlib.Tactic.Positivity
import Mathlib.Tactic.Ring
import Scaffold.Number.Shortest

/-!
Rounding by value. The number nearest to a ratio depends on the ratio alone, not on how it is written
as a quotient, and so the number nearest to a decimal depends on the value of the decimal alone. A ratio
that lies near enough to a number is rounded to it.
-/

namespace Scaffold

/-- The value of a magnitude. -/
def Magnitude.toRat (m : Magnitude) : ℚ := (m.significand : ℚ) * (2 : ℚ) ^ m.exponent

/-- The value of a decimal. -/
def Decimal.toRat (d : Decimal) : ℚ := (d.digits : ℚ) * (10 : ℚ) ^ d.exponent

/-- A power with any exponent as a quotient of powers, one of which is one. -/
theorem zpow_eq_div_pow (b : ℚ) (e : ℤ) : b ^ e = b ^ e.toNat / b ^ (-e).toNat := by
  rcases Int.le_total 0 e with he | he
  · have hneg : (-e).toNat = 0 := by omega
    rw [hneg, pow_zero, div_one, ← zpow_natCast, Int.toNat_of_nonneg he]
  · have hpos : e.toNat = 0 := by omega
    have hback : ((-e).toNat : ℤ) = -e := Int.toNat_of_nonneg (by omega)
    rw [hpos, pow_zero, ← zpow_natCast, hback, zpow_neg, one_div, inv_inv]

namespace Binary64

/-- Numerator and denominator scaled by a power of two. -/
theorem ratio_scaled (num den : ℕ) (e : ℤ) :
    ((num * 2 ^ (-e).toNat : ℕ) : ℚ) / ((den * 2 ^ e.toNat : ℕ) : ℚ) = (num : ℚ) / den / 2 ^ e := by
  rw [zpow_eq_div_pow 2]
  push_cast
  field_simp

/-! The logarithms of the two parts give the logarithm of the ratio, or one more than it. -/

theorem two_zpow_lt_ratio {num den : ℕ} (hnum : 0 < num) (hden : 0 < den) :
    (2 : ℚ) ^ ((num.log2 : ℤ) - den.log2 - 1) < (num : ℚ) / den := by
  have hdenQ : (0 : ℚ) < den := by exact_mod_cast hden
  have hn : (2 : ℚ) ^ (num.log2 : ℤ) ≤ num := by
    exact_mod_cast Nat.log2_self_le (Nat.ne_of_gt hnum)
  have hd : (den : ℚ) < (2 : ℚ) ^ ((den.log2 : ℤ) + 1) := by
    exact_mod_cast Nat.lt_log2_self (n := den)
  rw [lt_div_iff₀ hdenQ]
  calc (2 : ℚ) ^ ((num.log2 : ℤ) - den.log2 - 1) * den
      < 2 ^ ((num.log2 : ℤ) - den.log2 - 1) * 2 ^ ((den.log2 : ℤ) + 1) := by gcongr
    _ = 2 ^ (num.log2 : ℤ) := by
      rw [← zpow_add₀ two_ne_zero]
      congr 1
      omega
    _ ≤ num := hn

theorem ratio_lt_two_zpow {num den : ℕ} (hden : 0 < den) :
    (num : ℚ) / den < (2 : ℚ) ^ ((num.log2 : ℤ) - den.log2 + 1) := by
  have hdenQ : (0 : ℚ) < den := by exact_mod_cast hden
  have hn : (num : ℚ) < (2 : ℚ) ^ ((num.log2 : ℤ) + 1) := by
    exact_mod_cast Nat.lt_log2_self (n := num)
  have hd : (2 : ℚ) ^ (den.log2 : ℤ) ≤ den := by
    exact_mod_cast Nat.log2_self_le (Nat.ne_of_gt hden)
  rw [div_lt_iff₀ hdenQ]
  calc (num : ℚ) < 2 ^ ((num.log2 : ℤ) + 1) := hn
    _ = 2 ^ ((num.log2 : ℤ) - den.log2 + 1) * 2 ^ (den.log2 : ℤ) := by
      rw [← zpow_add₀ two_ne_zero]
      congr 1
      omega
    _ ≤ 2 ^ ((num.log2 : ℤ) - den.log2 + 1) * den := by gcongr

/-- The exponent of a ratio is told by its binary logarithm. -/
theorem exponentOf_eq {num den : ℕ} (hnum : 0 < num) (hden : 0 < den) :
    exponentOf num den = max (Int.log 2 ((num : ℚ) / den) - 52) (-1074) := by
  have hratio : (0 : ℚ) < (num : ℚ) / den := by positivity
  have hdenQ : (0 : ℚ) < den := by exact_mod_cast hden
  have hlow := two_zpow_lt_ratio hnum hden
  have hhigh : (num : ℚ) / den < _ := ratio_lt_two_zpow hden
  -- The difference `l` of the lengths is the logarithm or one more, and the comparison tells which.
  generalize hl : ((num.log2 : ℤ) - den.log2) = l at hlow hhigh
  have hfull : den * 2 ^ l.toNat ≤ num * 2 ^ (-l).toNat ↔ (2 : ℚ) ^ l ≤ (num : ℚ) / den := by
    rw [zpow_eq_div_pow 2, div_le_div_iff₀ (by positivity) hdenQ, mul_comm ((2 : ℚ) ^ _)]
    exact_mod_cast Iff.rfl
  have hbase : (1 : ℕ) < 2 := Nat.one_lt_two
  have hle (k : ℤ) : (2 : ℚ) ^ k ≤ (num : ℚ) / den ↔ k ≤ Int.log 2 ((num : ℚ) / den) := by
    exact_mod_cast Int.zpow_le_iff_le_log hbase hratio
  have hupper : ¬l + 1 ≤ Int.log 2 ((num : ℚ) / den) := fun h => not_lt.mpr ((hle _).mpr h) hhigh
  have hlower : l - 1 ≤ Int.log 2 ((num : ℚ) / den) := (hle _).mp hlow.le
  unfold exponentOf
  simp only [hl]
  split
  · next h =>
    have hlog := (hle l).mp (hfull.mp h)
    have heq : Int.log 2 ((num : ℚ) / den) = l := by omega
    rw [heq]
  · next h =>
    have hlog : ¬l ≤ Int.log 2 ((num : ℚ) / den) := fun hk => h (hfull.mpr ((hle l).mpr hk))
    have heq : Int.log 2 ((num : ℚ) / den) = l - 1 := by omega
    rw [heq]
    congr 1
    omega

/-- A quotient near a whole number is rounded to it. -/
theorem divNearest_eq_of_near {num den k : ℕ} (hden : 0 < den)
    (h : |(num : ℚ) / den - k| < 1 / 2) : divNearest num den = k := by
  have hdenQ : (0 : ℚ) < den := by exact_mod_cast hden
  obtain ⟨hbelow, habove⟩ := abs_lt.mp h
  have hlow : 2 * k * den < 2 * num + den := by
    have hquotient : (k : ℚ) - 1 / 2 < (num : ℚ) / den := by linarith
    rw [lt_div_iff₀ hdenQ] at hquotient
    have hcleared : (2 * k * den : ℚ) < 2 * num + den := by linarith
    exact_mod_cast hcleared
  have hhigh : 2 * num < 2 * k * den + den := by
    have hquotient : (num : ℚ) / den < (k : ℚ) + 1 / 2 := by linarith
    rw [div_lt_iff₀ hdenQ] at hquotient
    have hcleared : (2 * num : ℚ) < 2 * k * den + den := by linarith
    exact_mod_cast hcleared
  have hsplit := Nat.div_add_mod num den
  have hmod := Nat.mod_lt num hden
  unfold divNearest
  dsimp only
  generalize num / den = down at hsplit
  generalize num % den = rest at hsplit hmod
  -- The whole number is the quotient rounded down or up.
  have hle : down ≤ k := by
    have hmul : den * (2 * down) < den * (2 * k + 1) := by linarith
    have hlt := Nat.lt_of_mul_lt_mul_left hmul
    omega
  have hge : k ≤ down + 1 := by
    have hmul : den * (2 * k) < den * (2 * down + 3) := by linarith
    have hlt := Nat.lt_of_mul_lt_mul_left hmul
    omega
  rcases Nat.eq_or_lt_of_le hle with heq | hlt
  · have hrest : 2 * rest < den := by
      rw [← heq] at hhigh
      linarith
    have hnot : ¬(den < 2 * rest ∨ 2 * rest = den ∧ down % 2 = 1) := by omega
    simpa [hnot] using heq
  · have heq : k = down + 1 := by omega
    have hrest : den < 2 * rest := by
      rw [heq] at hlow
      linarith
    simp [hrest, heq]

/-- Equal quotients are rounded alike. -/
theorem divNearest_congr {a b c d : ℕ} (hb : 0 < b) (hd : 0 < d) (h : a * d = c * b) :
    divNearest a b = divNearest c d := by
  have hquotient : a / b = c / d := by
    rw [← Nat.mul_div_mul_right a b hd, h, Nat.mul_comm b d, Nat.mul_div_mul_right c d hb]
  have hremainder : a % b * d = c % d * b := by
    rw [← Nat.mul_mod_mul_right, h, Nat.mul_comm b d, Nat.mul_mod_mul_right]
  have hlt : b < 2 * (a % b) ↔ d < 2 * (c % d) := by
    rw [← Nat.mul_lt_mul_right hd, Nat.mul_assoc, hremainder, ← Nat.mul_assoc, Nat.mul_comm b d,
      Nat.mul_lt_mul_right hb]
  have heq : 2 * (a % b) = b ↔ 2 * (c % d) = d := by
    rw [← Nat.mul_left_inj (Nat.ne_of_gt hd), Nat.mul_assoc, hremainder, ← Nat.mul_assoc,
      Nat.mul_comm b d, Nat.mul_left_inj (Nat.ne_of_gt hb)]
  unfold divNearest
  dsimp only
  rw [hquotient]
  simp only [hlt, heq, Bool.or_eq_true, decide_eq_true_eq, Bool.and_eq_true, beq_iff_eq]

/-- The number nearest to a ratio depends on the ratio alone. -/
theorem ofRatio_congr (negative : Bool) {a b c d : ℕ} (hb : 0 < b) (hd : 0 < d)
    (h : (a : ℚ) / b = (c : ℚ) / d) : ofRatio negative a b = ofRatio negative c d := by
  have hbQ : (b : ℚ) ≠ 0 := by exact_mod_cast Nat.ne_of_gt hb
  have hdQ : (d : ℚ) ≠ 0 := by exact_mod_cast Nat.ne_of_gt hd
  have hcross : a * d = c * b := by
    rw [div_eq_div_iff hbQ hdQ] at h
    exact_mod_cast h
  rcases Nat.eq_zero_or_pos a with ha | ha
  · have hc : c = 0 := by
      rw [ha, Nat.zero_mul] at hcross
      exact (Nat.mul_eq_zero.mp hcross.symm).resolve_right (Nat.ne_of_gt hb)
    rw [ofRatio, ofRatio, if_pos ha, if_pos hc]
  · have hc : 0 < c := by
      apply Nat.pos_of_ne_zero
      intro hzero
      rw [hzero, Nat.zero_mul, Nat.mul_eq_zero] at hcross
      omega
    -- The exponents are equal, and so are the quotients that are rounded at any exponent.
    have hexponent : exponentOf a b = exponentOf c d := by
      rw [exponentOf_eq ha hb, exponentOf_eq hc hd, h]
    have hsignificand (e : ℤ) : divNearest (a * 2 ^ (-e).toNat) (b * 2 ^ e.toNat) =
        divNearest (c * 2 ^ (-e).toNat) (d * 2 ^ e.toNat) := by
      apply divNearest_congr (by positivity) (by positivity)
      calc a * 2 ^ (-e).toNat * (d * 2 ^ e.toNat)
          = a * d * (2 ^ (-e).toNat * 2 ^ e.toNat) := by ring
        _ = c * b * (2 ^ (-e).toNat * 2 ^ e.toNat) := by rw [hcross]
        _ = c * 2 ^ (-e).toNat * (b * 2 ^ e.toNat) := by ring
    rw [ofRatio, ofRatio, if_neg (Nat.ne_of_gt ha), if_neg (Nat.ne_of_gt hc)]
    dsimp only
    rw [hexponent, hsignificand]

/-- A ratio counted in steps of its binade, or in the least steps, is rounded to the number of steps that
it lies near to. -/
theorem ofRatio_of_steps (negative : Bool) {num den : ℕ} (hnum : 0 < num) (hden : 0 < den) {x : ℚ} {e : ℤ}
    (hx : (num : ℚ) / den = x * 2 ^ e) (hlow : (2 : ℚ) ^ 52 ≤ x ∨ e = -1074) (hhigh : x < 2 ^ 53)
    (he : -1074 ≤ e) {k : ℕ} (hk : |x - k| < 1 / 2) :
    ofRatio negative num den =
      if k = 2 ^ 53 then ofParts negative (2 ^ 52) (e + 1) else ofParts negative k e := by
  have hp : (0 : ℚ) < 2 ^ e := by positivity
  have hratio : (0 : ℚ) < (num : ℚ) / den := by
    have hnumQ : (0 : ℚ) < num := by exact_mod_cast hnum
    have hdenQ : (0 : ℚ) < den := by exact_mod_cast hden
    positivity
  have hlog (j : ℕ) : (j : ℤ) + e ≤ Int.log 2 ((num : ℚ) / den) ↔ (2 : ℚ) ^ j ≤ x := by
    have hbase : (1 : ℕ) < 2 := Nat.one_lt_two
    rw [← Int.zpow_le_iff_le_log hbase hratio, hx, Nat.cast_ofNat, zpow_add₀ two_ne_zero, zpow_natCast,
      mul_le_mul_iff_of_pos_right hp]
  -- The significand has all its 53 bits, unless the steps are the least ones and the exponent cannot go lower.
  have hexponent : exponentOf num den = e := by
    have hupper : ¬((53 : ℕ) : ℤ) + e ≤ Int.log 2 ((num : ℚ) / den) := by
      rw [hlog, not_le]
      exact hhigh
    rw [exponentOf_eq hnum hden]
    rcases hlow with hlow | hleast
    · have hlower := (hlog 52).mpr hlow
      omega
    · omega
  have hround : divNearest (num * 2 ^ (-e).toNat) (den * 2 ^ e.toNat) = k := by
    apply divNearest_eq_of_near (by positivity)
    rwa [ratio_scaled, hx, mul_div_cancel_right₀ _ (ne_of_gt hp)]
  rw [ofRatio, if_neg (Nat.ne_of_gt hnum)]
  dsimp only
  rw [hexponent, hround]

/-- A ratio nearer to a magnitude than the part `2^-54` of it is rounded to the magnitude. Half a step
between two numbers is at least that much, also below a power of two, where the step is halved. -/
theorem ofRatio_eq_of_near (negative : Bool) {num den : ℕ} (hnum : 0 < num) (hden : 0 < den)
    {m : Magnitude} (h : |(num : ℚ) / den - m.toRat| < m.toRat / 2 ^ 54) :
    ofRatio negative num den = finite negative m := by
  obtain ⟨significand, exponent, hfits⟩ := m
  have ⟨hlt, hleast, hgreatest, hnormal⟩ := hfits
  have hp : (0 : ℚ) < 2 ^ exponent := by positivity
  obtain ⟨x, hx⟩ : ∃ x : ℚ, (num : ℚ) / den = x * 2 ^ exponent :=
    ⟨(num : ℚ) / den / 2 ^ exponent, (div_mul_cancel₀ _ (ne_of_gt hp)).symm⟩
  have hsteps : |x - significand| < (significand : ℚ) / 2 ^ 54 := by
    rw [hx, Magnitude.toRat, ← sub_mul, abs_mul, abs_of_pos hp, mul_div_right_comm] at h
    exact lt_of_mul_lt_mul_right h hp.le
  obtain ⟨hbelow, habove⟩ := abs_lt.mp hsteps
  have hltQ : (significand : ℚ) + 1 ≤ 2 ^ 53 := by exact_mod_cast hlt
  by_cases hbinade : (2 : ℚ) ^ 52 ≤ x ∨ exponent = -1074
  · -- The ratio lies in the binade of the magnitude.
    have hhigh : x < 2 ^ 53 := by linarith
    have hnear : |x - significand| < 1 / 2 := by linarith
    rw [ofRatio_of_steps negative hnum hden hx hbinade hhigh hleast hnear, if_neg (Nat.ne_of_lt hlt),
      ofParts, dif_pos hfits]
  · -- The ratio lies below the magnitude, which is the power of two that begins its binade.
    obtain ⟨hlower, hnonzero⟩ := not_or.mp hbinade
    rw [not_le] at hlower
    have hfull := hnormal.resolve_right hnonzero
    have hpower : significand = 2 ^ 52 := by
      have hpowerQ : (significand : ℚ) < 2 ^ 52 + 1 := by linarith
      have hle : significand < 2 ^ 52 + 1 := by exact_mod_cast hpowerQ
      omega
    subst hpower
    push_cast at hbelow
    have hhalved : (num : ℚ) / den = 2 * x * 2 ^ (exponent - 1) := by
      rw [hx, zpow_sub_one₀ two_ne_zero]
      field_simp
    have hlow : (2 : ℚ) ^ 52 ≤ 2 * x := by linarith
    have hhigh : 2 * x < 2 ^ 53 := by linarith
    have hnear : |2 * x - (2 ^ 53 : ℕ)| < 1 / 2 := by
      rw [abs_lt]
      push_cast
      constructor <;> linarith
    rw [ofRatio_of_steps negative hnum hden hhalved (.inl hlow) hhigh (by omega) hnear, if_pos rfl,
      sub_add_cancel, ofParts, dif_pos hfits]

/-- A ratio beyond all finite numbers is rounded to an infinity. -/
theorem ofRatio_eq_infinite (negative : Bool) {num den : ℕ} (hnum : 0 < num) (hden : 0 < den)
    (h : (2 : ℚ) ^ 1024 ≤ (num : ℚ) / den) : ofRatio negative num den = infinite negative := by
  have hbase : (1 : ℕ) < 2 := Nat.one_lt_two
  have hratio : (0 : ℚ) < (num : ℚ) / den := lt_of_lt_of_le (by positivity) h
  have hlog : ((1024 : ℕ) : ℤ) ≤ Int.log 2 ((num : ℚ) / den) := by
    rw [← Int.zpow_le_iff_le_log hbase hratio, Nat.cast_ofNat, zpow_natCast]
    exact h
  have hexponent : 972 ≤ exponentOf num den := by
    rw [exponentOf_eq hnum hden]
    omega
  -- No exponent as great as that fits, whether the significand carries or not.
  have hparts (significand : ℕ) {e : ℤ} (he : 972 ≤ e) :
      ofParts negative significand e = infinite negative := by
    rw [ofParts, dif_neg]
    intro hfits
    have hgreatest := hfits.2.2.1
    omega
  rw [ofRatio, if_neg (Nat.ne_of_gt hnum)]
  dsimp only
  rw [hparts _ (by omega), hparts _ hexponent, ite_self]

/-- A ratio below half the least number is rounded to zero. -/
theorem ofRatio_eq_zero (negative : Bool) {num den : ℕ} (hnum : 0 < num) (hden : 0 < den)
    (h : (num : ℚ) / den < 2 ^ (-1075 : ℤ)) : ofRatio negative num den = finite negative .zero := by
  have hp : (0 : ℚ) < 2 ^ (-1074 : ℤ) := by positivity
  obtain ⟨x, hx⟩ : ∃ x : ℚ, (num : ℚ) / den = x * 2 ^ (-1074 : ℤ) :=
    ⟨(num : ℚ) / den / 2 ^ (-1074 : ℤ), (div_mul_cancel₀ _ (ne_of_gt hp)).symm⟩
  have hpos : 0 < x := by
    have hratio : (0 : ℚ) < (num : ℚ) / den := by
      have hnumQ : (0 : ℚ) < num := by exact_mod_cast hnum
      have hdenQ : (0 : ℚ) < den := by exact_mod_cast hden
      positivity
    rw [hx] at hratio
    exact pos_of_mul_pos_left hratio hp.le
  have hhalf : x < 1 / 2 := by
    have hsplit : (2 : ℚ) ^ (-1075 : ℤ) = 1 / 2 * 2 ^ (-1074 : ℤ) := by
      rw [show (-1075 : ℤ) = -1074 - 1 by rfl, zpow_sub_one₀ two_ne_zero]
      ring
    rw [hx, hsplit] at h
    exact lt_of_mul_lt_mul_right h hp.le
  have hnear : |x - (0 : ℕ)| < 1 / 2 := by
    rw [Nat.cast_zero, sub_zero, abs_of_pos hpos]
    exact hhalf
  rw [ofRatio_of_steps negative hnum hden hx (.inr rfl) (by linarith) le_rfl hnear]
  rfl

/-- The sign does not matter to the size. -/
theorem ofRatio_eq_finite_iff (negative : Bool) {num den : ℕ} {m : Magnitude} :
    ofRatio negative num den = finite negative m ↔ ofRatio false num den = finite false m := by
  have hparts (significand : ℕ) (e : ℤ) :
      ofParts negative significand e = finite negative m ↔ ofParts false significand e = finite false m := by
    unfold ofParts
    split <;> simp
  unfold ofRatio
  dsimp only
  split
  · simp
  · split
    · exact hparts _ _
    · exact hparts _ _

/-- A decimal as a ratio. -/
theorem ratio_decimal (digits : ℕ) (exponent : ℤ) :
    ((digits * 10 ^ exponent.toNat : ℕ) : ℚ) / ((10 ^ (-exponent).toNat : ℕ) : ℚ) =
      (Decimal.mk digits exponent).toRat := by
  rw [Decimal.toRat, zpow_eq_div_pow 10]
  push_cast
  ring

theorem two_pow_le_ten_pow {j k : ℕ} (h : j ≤ 3 * k) : (2 : ℚ) ^ j ≤ 10 ^ k := by
  calc (2 : ℚ) ^ j ≤ 2 ^ (3 * k) := pow_le_pow_right₀ (by norm_num) h
    _ = 8 ^ k := by rw [pow_mul]; norm_num
    _ ≤ 10 ^ k := by gcongr; norm_num

/-- Exponents far outside the format are settled as the rounding would settle them. -/
theorem ofDecimal_eq_ofRatio (negative : Bool) (digits : ℕ) (exponent : ℤ) :
    ofDecimal negative digits exponent =
      ofRatio negative (digits * 10 ^ exponent.toNat) (10 ^ (-exponent).toNat) := by
  unfold ofDecimal
  split
  · next hzero => rw [hzero, Nat.zero_mul, ofRatio, if_pos rfl]
  next hzero =>
  have hnum : 0 < digits * 10 ^ exponent.toNat :=
    Nat.mul_pos (Nat.pos_of_ne_zero hzero) (by positivity)
  have hden : 0 < 10 ^ (-exponent).toNat := by positivity
  have hdigits : (1 : ℚ) ≤ digits := by exact_mod_cast Nat.pos_of_ne_zero hzero
  split
  · next hgreat =>
    -- One digit is enough to lead out of the format, as `2^1024` is below `10^401`.
    refine (ofRatio_eq_infinite negative hnum hden ?_).symm
    rw [ratio_decimal, Decimal.toRat]
    calc (2 : ℚ) ^ 1024 ≤ 10 ^ 401 := two_pow_le_ten_pow (by norm_num)
      _ = 10 ^ (401 : ℤ) := (zpow_ofNat 10 401).symm
      _ ≤ 10 ^ exponent := zpow_le_zpow_right₀ (by norm_num) (by omega)
      _ ≤ digits * 10 ^ exponent := le_mul_of_one_le_left (by positivity) hdigits
  · split
    · next hsmall =>
      -- A number has no more decimal digits than binary ones, so the value is below `10^-400`.
      refine (ofRatio_eq_zero negative hnum hden ?_).symm
      have hlog : (digits : ℚ) < 10 ^ ((digits.log2 : ℤ) + 1) := by
        have hlt : (digits : ℚ) < 2 ^ (digits.log2 + 1) := by exact_mod_cast Nat.lt_log2_self (n := digits)
        calc (digits : ℚ) < 2 ^ (digits.log2 + 1) := hlt
          _ ≤ 10 ^ (digits.log2 + 1) := by gcongr; norm_num
          _ = 10 ^ ((digits.log2 : ℤ) + 1) := by norm_cast
      rw [ratio_decimal, Decimal.toRat]
      calc (digits : ℚ) * 10 ^ exponent < 10 ^ ((digits.log2 : ℤ) + 1) * 10 ^ exponent := by gcongr
        _ = 10 ^ ((digits.log2 : ℤ) + 1 + exponent) := (zpow_add₀ (by norm_num) _ _).symm
        _ ≤ 10 ^ (-400 : ℤ) := zpow_le_zpow_right₀ (by norm_num) (by omega)
        _ = (10 ^ 400)⁻¹ := by rw [zpow_neg]; norm_cast
        _ ≤ (2 ^ 1075)⁻¹ := inv_anti₀ (by positivity) (two_pow_le_ten_pow (by norm_num))
        _ = 2 ^ (-1075 : ℤ) := by rw [zpow_neg]; norm_cast
    · rfl

/-- The number nearest to a decimal depends on its value alone. -/
theorem ofDecimal_congr (negative : Bool) {d d' : Decimal} (h : d.toRat = d'.toRat) :
    ofDecimal negative d.digits d.exponent = ofDecimal negative d'.digits d'.exponent := by
  rw [ofDecimal_eq_ofRatio, ofDecimal_eq_ofRatio]
  apply ofRatio_congr negative (by positivity) (by positivity)
  rw [ratio_decimal, ratio_decimal]
  exact h

/-- A decimal near a magnitude is rounded to it. -/
theorem ofDecimal_eq_of_near (negative : Bool) {d : Decimal} (hd : 0 < d.digits) {m : Magnitude}
    (h : |d.toRat - m.toRat| < m.toRat / 2 ^ 54) :
    ofDecimal negative d.digits d.exponent = finite negative m := by
  rw [ofDecimal_eq_ofRatio]
  apply ofRatio_eq_of_near negative (Nat.mul_pos hd (by positivity)) (by positivity)
  rwa [ratio_decimal]

end Binary64

end Scaffold
