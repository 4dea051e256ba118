import Mathlib.Algebra.Order.Floor.Semifield
import Scaffold.Proofs.Number.Nearest

/-!
The shortest decimal of a number reads back as the number. The search for it goes from the grid of the
leading digit down and stops at the first grid with a decimal that reads back. The grid of seventeen
digits always has one, so the search never runs out.
-/

namespace Scaffold

namespace Magnitude

variable {m : Magnitude} {tie : Tie}

/-- The steps that make up one, as a power whose exponent is a variable, so that no tactic evaluates it. -/
theorem one_eq {n : ℕ} (h : n = 1074) : one = 2 ^ n := by
  rw [h, one]

theorem one_pos : 0 < one := by
  obtain ⟨n, hn⟩ : ∃ n, n = 1074 := ⟨_, rfl⟩
  rw [one_eq hn]
  exact Nat.two_pow_pos n

/-- The value of a magnitude is its steps, counted in the number of steps that make up one. -/
theorem steps_div_one (m : Magnitude) : (m.steps : ℚ) / (one : ℕ) = m.toRat := by
  obtain ⟨n, hn⟩ : ∃ n, n = 1074 := ⟨_, rfl⟩
  have hexponent : ((m.exponent + 1074).toNat : ℤ) = m.exponent + n := by
    have hleast := m.fits.2.1
    omega
  rw [one_eq hn, steps, toRat]
  push_cast
  rw [← zpow_natCast, ← zpow_natCast, hexponent, zpow_add₀ two_ne_zero, ← mul_assoc,
    mul_div_cancel_right₀ _ (zpow_ne_zero _ two_ne_zero)]

theorem toRat_pos (h : m.significand ≠ 0) : 0 < m.toRat := by
  have hpos : (0 : ℚ) < m.significand := by exact_mod_cast Nat.pos_of_ne_zero h
  rw [toRat]
  positivity

/-- The value of a magnitude, counted in steps of a grid. -/
theorem ratio_grid (m : Magnitude) (k : ℤ) :
    ((m.steps * 10 ^ (-k).toNat : ℕ) : ℚ) / ((one * 10 ^ k.toNat : ℕ) : ℚ) = m.toRat / 10 ^ k := by
  have hone : ((one : ℕ) : ℚ) ≠ 0 := by exact_mod_cast Nat.ne_of_gt one_pos
  rw [zpow_eq_div_pow 10, ← steps_div_one]
  generalize one = n at hone
  push_cast
  field_simp

/-- A magnitude is not less than the power of ten at its leading digit. -/
theorem ten_zpow_leadingExponent_le (h : m.significand ≠ 0) :
    (10 : ℚ) ^ m.leadingExponent ≤ m.toRat := by
  -- Powers of numbers as large as these are not to be worked out.
  obtain ⟨k, hk⟩ : ∃ k, k = 330 := ⟨_, rfl⟩
  have hscaled : one ≤ m.steps * 10 ^ k := by
    have hsteps : 0 < m.steps := Nat.mul_pos (Nat.pos_of_ne_zero h) (by positivity)
    obtain ⟨n, hn⟩ : ∃ n, n = 1074 := ⟨_, rfl⟩
    have hexponent : 10 * 33 = k := hk.symm
    calc one = 2 ^ n := one_eq hn
      _ ≤ 2 ^ (33 * 33) := Nat.pow_le_pow_right (by decide) (by omega)
      _ = (2 ^ 33) ^ 33 := Nat.pow_mul 2 33 33
      _ ≤ (10 ^ 10) ^ 33 := Nat.pow_le_pow_left (by decide) 33
      _ = 10 ^ k := by rw [← Nat.pow_mul, hexponent]
      _ ≤ m.steps * 10 ^ k := Nat.le_mul_of_pos_left _ hsteps
  have hpos : 0 < m.steps * 10 ^ k / one := Nat.div_pos hscaled one_pos
  obtain ⟨n, hn⟩ : ∃ n, (Nat.toDigits 10 (m.steps * 10 ^ k / one)).length = n + 1 :=
    ⟨_, (Nat.succ_pred_eq_of_pos Nat.length_toDigits_pos).symm⟩
  have hdigits : 10 ^ n ≤ m.steps * 10 ^ k / one := by
    rcases Nat.eq_zero_or_pos n with rfl | hlength
    · exact hpos
    · by_contra hlt
      have hle := (Nat.length_toDigits_le_iff (by decide) hlength).mpr (not_le.mp hlt)
      omega
  rw [Nat.le_div_iff_mul_le one_pos] at hdigits
  have hexponent : m.leadingExponent = (n : ℤ) - (k : ℕ) := by
    rw [leadingExponent, ← hk, hn]
    omega
  have honeQ : (0 : ℚ) < (one : ℕ) := by exact_mod_cast one_pos
  rw [hexponent, zpow_sub₀ (by norm_num), zpow_natCast, zpow_natCast, div_le_iff₀ (by positivity),
    ← steps_div_one, div_mul_eq_mul_div, le_div_iff₀ honeQ]
  exact_mod_cast hdigits

/-- On the grid of seventeen digits a decimal reads back if it is nearest to the value. -/
theorem readsBack_of_near (h : m.significand ≠ 0) {digits : ℕ} (hdigits : 0 < digits)
    (hnear : |m.toRat / 10 ^ (m.leadingExponent - 16) - digits| ≤ 1 / 2) :
    m.readsBack ⟨digits, m.leadingExponent - 16⟩ = true := by
  have hpos := toRat_pos h
  have hleading := ten_zpow_leadingExponent_le h
  have hsplit : (10 : ℚ) ^ m.leadingExponent = 10 ^ (m.leadingExponent - 16) * 10 ^ 16 := by
    rw [zpow_sub₀ (by norm_num), zpow_ofNat, div_mul_cancel₀ _ (by positivity)]
  rw [hsplit] at hleading
  have hp : (0 : ℚ) < 10 ^ (m.leadingExponent - 16) := by positivity
  have hvalue : m.toRat = m.toRat / 10 ^ (m.leadingExponent - 16) * 10 ^ (m.leadingExponent - 16) :=
    (div_mul_cancel₀ _ (ne_of_gt hp)).symm
  rw [readsBack, beq_iff_eq]
  apply Binary64.ofDecimal_eq_of_near false hdigits
  -- Half a step of the grid is less than half a step between two numbers.
  calc |(Decimal.mk digits (m.leadingExponent - 16)).toRat - m.toRat|
      = |m.toRat / 10 ^ (m.leadingExponent - 16) - digits| * 10 ^ (m.leadingExponent - 16) := by
        conv_lhs => rw [hvalue]
        rw [Decimal.toRat, ← sub_mul, abs_mul, abs_of_pos hp, abs_sub_comm]
    _ ≤ 1 / 2 * 10 ^ (m.leadingExponent - 16) := by gcongr
    _ < m.toRat / 2 ^ 54 := by linarith

/-- A grid has a decimal exactly if a neighbour of the value reads back, and it is one that does. -/
theorem onGrid?_cases (m : Magnitude) (tie : Tie) (k : ℤ) {num den : ℕ}
    (hnum : m.steps * 10 ^ (-k).toNat = num) (hden : one * 10 ^ k.toNat = den) :
    (∃ d, m.onGrid? tie k = some d ∧ m.readsBack d = true) ∨
      (m.onGrid? tie k = none ∧
        m.readsBack ⟨num / den, k⟩ = false ∧ m.readsBack ⟨num / den + 1, k⟩ = false) := by
  unfold onGrid?
  rw [hnum, hden]
  dsimp only
  cases hlow : m.readsBack ⟨num / den, k⟩ <;> cases hhigh : m.readsBack ⟨num / den + 1, k⟩
  case false.false => exact .inr ⟨rfl, rfl, rfl⟩
  case false.true => exact .inl ⟨_, rfl, hhigh⟩
  case true.false => exact .inl ⟨_, rfl, hlow⟩
  case true.true =>
    left
    dsimp only
    split
    · exact ⟨_, rfl, hlow⟩
    · split
      · exact ⟨_, rfl, hhigh⟩
      · cases tie with
        | up => exact ⟨_, rfl, hhigh⟩
        | toEven =>
          dsimp only
          split
          · exact ⟨_, rfl, hlow⟩
          · exact ⟨_, rfl, hhigh⟩

/-- A decimal that the search finds on a grid reads back. -/
theorem readsBack_of_onGrid? {k : ℤ} {d : Decimal} (h : m.onGrid? tie k = some d) :
    m.readsBack d = true := by
  rcases onGrid?_cases m tie k rfl rfl with ⟨d', hd', hback⟩ | ⟨hnone, -, -⟩
  · rw [h] at hd'
    obtain rfl := Option.some.inj hd'
    exact hback
  · rw [h] at hnone
    cases hnone

/-- The grid of seventeen digits has a decimal for every magnitude. -/
theorem onGrid?_ne_none (h : m.significand ≠ 0) (tie : Tie) :
    m.onGrid? tie (m.leadingExponent - 16) ≠ none := by
  intro hnone
  have hreads (digits : ℕ) (hdigits : 0 < digits) := readsBack_of_near h hdigits
  have hleading : (10 : ℚ) ^ 16 ≤ m.toRat / 10 ^ (m.leadingExponent - 16) := by
    rw [le_div_iff₀ (by positivity), zpow_sub₀ (by norm_num), zpow_ofNat,
      mul_div_cancel₀ _ (by positivity)]
    exact ten_zpow_leadingExponent_le h
  rw [← ratio_grid] at hleading hreads
  have hcases := onGrid?_cases m tie (m.leadingExponent - 16) rfl rfl
  generalize m.steps * 10 ^ (-(m.leadingExponent - 16)).toNat = num at hleading hreads hcases
  generalize one * 10 ^ (m.leadingExponent - 16).toNat = den at hleading hreads hcases
  rcases hcases with ⟨d, hd, -⟩ | ⟨-, hlow, hhigh⟩
  · rw [hnone] at hd
    cases hd
  have hdown : ((num / den : ℕ) : ℚ) ≤ (num : ℚ) / den := by
    rw [← Nat.floor_div_eq_div (K := ℚ)]
    exact Nat.floor_le (by positivity)
  have hup : (num : ℚ) / den < ((num / den : ℕ) : ℚ) + 1 := by
    rw [← Nat.floor_div_eq_div (K := ℚ)]
    exact Nat.lt_floor_add_one _
  have hpositive : 0 < num / den := by
    have hlt : (0 : ℚ) < ((num / den : ℕ) : ℚ) := by linarith
    exact_mod_cast hlt
  -- One of the two neighbours on the grid is at most half a step away.
  rcases le_total ((num : ℚ) / den) ((num / den : ℕ) + 1 / 2) with hhalf | hhalf
  · have hback := hreads (num / den) hpositive (by rw [abs_le]; constructor <;> linarith)
    rw [hlow] at hback
    cases hback
  · have hback := hreads (num / den + 1) (Nat.succ_pos _)
      (by push_cast; rw [abs_le]; constructor <;> linarith)
    rw [hhigh] at hback
    cases hback

/-- The search finds a decimal that reads back, when one of its grids has one. -/
theorem readsBack_searchGrids (tie : Tie) {j : ℕ} :
    ∀ {fuel : ℕ} {k : ℤ}, j < fuel → m.onGrid? tie (k - j) ≠ none →
      m.readsBack (m.searchGrids tie fuel k) = true := by
  -- Induction on the distance to the grid that has a decimal.
  induction j with
  | zero =>
    intro fuel k hfuel hgrid
    obtain ⟨n, rfl⟩ := Nat.exists_eq_add_of_lt hfuel
    rw [Nat.cast_zero, sub_zero] at hgrid
    obtain ⟨d, hd⟩ := Option.ne_none_iff_exists'.mp hgrid
    rw [Nat.zero_add, searchGrids, hd]
    exact readsBack_of_onGrid? hd
  | succ j ih =>
    intro fuel k hfuel hgrid
    obtain ⟨n, rfl⟩ := Nat.exists_eq_add_of_lt (Nat.zero_lt_of_lt hfuel)
    rw [Nat.zero_add, searchGrids]
    split
    · next d hd => exact readsBack_of_onGrid? hd
    · apply ih (by omega)
      rwa [show k - 1 - (j : ℤ) = k - ((j + 1 : ℕ) : ℤ) by omega]

end Magnitude

/-- Zeros at the end of a decimal do not count. -/
theorem Decimal.toRat_stripZeros : ∀ (fuel : ℕ) (d : Decimal), (d.stripZeros fuel).toRat = d.toRat
  | 0, _ => rfl
  | fuel + 1, d => by
    rw [stripZeros]
    split
    · next h =>
      rw [toRat_stripZeros fuel, toRat, toRat, zpow_add_one₀ (by norm_num)]
      obtain ⟨digits, hdigits⟩ := Nat.dvd_of_mod_eq_zero h.2
      rw [hdigits, Nat.mul_div_cancel_left _ (by norm_num)]
      push_cast
      ring
    · rfl

/-- The only magnitude with no significand is zero. -/
theorem Magnitude.eq_zero_of_significand {m : Magnitude} (h : m.significand = 0) : m = .zero := by
  obtain ⟨significand, exponent, hfits⟩ := m
  obtain rfl : significand = 0 := h
  obtain rfl : exponent = -1074 := by
    have hnormal := hfits.2.2.2
    omega
  rfl

/-- Every magnitude is read back from each decimal with the value of its shortest one. -/
theorem Binary64.ofDecimal_of_toRat_eq (negative : Bool) {m : Magnitude} {tie : Tie} {d : Decimal}
    (h : d.toRat = (m.shortest tie).toRat) :
    ofDecimal negative d.digits d.exponent = finite negative m := by
  rw [ofDecimal_congr negative h, Magnitude.shortest]
  split
  · next hzero =>
    rw [Magnitude.eq_zero_of_significand hzero]
    rfl
  · next hsignificand =>
    have hgrid := Magnitude.onGrid?_ne_none hsignificand tie
    have hback : m.readsBack (m.searchGrids tie 17 m.leadingExponent) = true :=
      Magnitude.readsBack_searchGrids tie (j := 16) (by norm_num) hgrid
    rw [ofDecimal_congr negative (Decimal.toRat_stripZeros 20 _), ofDecimal_eq_ofRatio,
      ofRatio_eq_finite_iff, ← ofDecimal_eq_ofRatio]
    exact beq_iff_eq.mp hback

end Scaffold
