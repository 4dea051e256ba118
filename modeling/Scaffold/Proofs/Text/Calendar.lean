import Mathlib.Data.List.Induction
import Scaffold.Proofs.Number.Numeral

namespace Scaffold

/-- Whether a year has a leap day. -/
def isLeapYear (year : Nat) : Bool := year % 4 == 0 && (year % 100 != 0 || year % 400 == 0)

/-- The number of days of a month. What is no month has none. -/
def daysIn (year : Nat) : (month : Nat) → Nat
  | 2 => if isLeapYear year then 29 else 28
  | 4 | 6 | 9 | 11 => 30
  | 1 | 3 | 5 | 7 | 8 | 10 | 12 => 31
  | _ => 0

/-- A day in a year of four digits. -/
structure CalendarDay where
  year : Nat
  month : Nat
  day : Nat
  year_lt : year < 10000
  day_pos : 0 < day
  day_le : day ≤ daysIn year month

/-- The last digits of a number, as many as there is room for. -/
def fixedDigits : (width n : Nat) → List Char
  | 0, _ => []
  | width + 1, n => fixedDigits width (n / 10) ++ [Nat.digitChar (n % 10)]

/-- The text of a day. -/
def CalendarDay.text (d : CalendarDay) : String :=
  String.ofList (fixedDigits 4 d.year ++ '-' :: fixedDigits 2 d.month ++ '-' :: fixedDigits 2 d.day)

/-- Whether the characters are the text of a day. -/
def Text.namesDay : List Char → Bool
  | [a, b, c, d, m, e, f, n, g, h] =>
    [a, b, c, d, e, f, g, h].all Char.isDigit && m == '-' && n == '-' &&
      decide (0 < digitsValue [g, h]) &&
      decide (digitsValue [g, h] ≤ daysIn (digitsValue [a, b, c, d]) (digitsValue [e, f]))
  | _ => false

/-- The character of a digit and back. -/
theorem digitChar_of_lt {k : Nat} (h : k < 10) :
    (Nat.digitChar k).isDigit = true ∧ (Nat.digitChar k).toNat - 48 = k := by
  have hall : ∀ k < 10, (Nat.digitChar k).isDigit = true ∧ (Nat.digitChar k).toNat - 48 = k := by decide
  exact hall k h

theorem digitChar_of_isDigit {c : Char} (h : c.isDigit = true) :
    c.toNat - 48 < 10 ∧ Nat.digitChar (c.toNat - 48) = c := by
  have hall : ['0', '1', '2', '3', '4', '5', '6', '7', '8', '9'].all
      (fun c => c.toNat - 48 < 10 ∧ Nat.digitChar (c.toNat - 48) = c) = true := by decide
  exact of_decide_eq_true (List.all_eq_true.mp hall c (mem_digits_of_isDigit h))

theorem digitsValue_concat (ds : List Char) (c : Char) :
    digitsValue (ds ++ [c]) = 10 * digitsValue ds + (c.toNat - 48) := by
  rw [digitsValue, List.foldl_append]
  rfl

theorem isDigit_fixedDigits (width n : Nat) : ∀ c ∈ fixedDigits width n, c.isDigit = true := by
  induction width generalizing n with
  | zero => exact fun c hc => absurd hc List.not_mem_nil
  | succ width ih =>
    intro c hc
    rcases List.mem_append.mp hc with hc | hc
    · exact ih (n / 10) c hc
    · rw [List.mem_singleton.mp hc]
      exact (digitChar_of_lt (Nat.mod_lt n (by decide))).1

/-- A number is read back from its digits where there is room for all of them. -/
theorem digitsValue_fixedDigits {width n : Nat} (h : n < 10 ^ width) :
    digitsValue (fixedDigits width n) = n := by
  induction width generalizing n with
  | zero =>
    obtain rfl : n = 0 := by omega
    rfl
  | succ width ih =>
    have hrest : n / 10 < 10 ^ width := by
      rw [Nat.pow_succ] at h
      exact Nat.div_lt_of_lt_mul (by omega)
    rw [fixedDigits, digitsValue_concat, ih hrest, (digitChar_of_lt (Nat.mod_lt n (by decide))).2]
    omega

/-- Digits have room for the number that they stand for. -/
theorem digitsValue_lt {ds : List Char} (h : ∀ c ∈ ds, c.isDigit = true) :
    digitsValue ds < 10 ^ ds.length := by
  induction ds using List.reverseRecOn with
  | nil => decide
  | append_singleton ds c ih =>
    obtain ⟨hds, hc⟩ := List.forall_mem_append.mp h
    have hlast := (digitChar_of_isDigit (hc c List.mem_cons_self)).1
    have hrest := ih hds
    rw [digitsValue_concat, List.length_append, List.length_singleton, Nat.pow_succ]
    omega

/-- They are written again from that number. -/
theorem fixedDigits_digitsValue {ds : List Char} (h : ∀ c ∈ ds, c.isDigit = true) :
    fixedDigits ds.length (digitsValue ds) = ds := by
  induction ds using List.reverseRecOn with
  | nil => rfl
  | append_singleton ds c ih =>
    obtain ⟨hds, hc⟩ := List.forall_mem_append.mp h
    obtain ⟨hlast, hchar⟩ := digitChar_of_isDigit (hc c List.mem_cons_self)
    have hdiv : (10 * digitsValue ds + (c.toNat - 48)) / 10 = digitsValue ds := by omega
    have hmod : (10 * digitsValue ds + (c.toNat - 48)) % 10 = c.toNat - 48 := by omega
    rw [digitsValue_concat, List.length_append, List.length_singleton, fixedDigits, hdiv, hmod, ih hds,
      hchar]

/-- No month has more days. -/
theorem daysIn_le (year month : Nat) : daysIn year month ≤ 31 := by
  unfold daysIn
  split
  · split <;> omega
  all_goals omega

/-- Only the twelve months have days. -/
theorem month_le_of_daysIn_pos {year month : Nat} (h : 0 < daysIn year month) : month ≤ 12 := by
  unfold daysIn at h
  split at h <;> omega

/-- A text names a day exactly when it is the text of one. -/
theorem Text.namesDay_iff (s : String) : namesDay s.toList = true ↔ ∃ d : CalendarDay, s = d.text := by
  constructor
  · intro h
    unfold namesDay at h
    split at h
    · next a b c d m e f n g k hs =>
      simp only [Bool.and_eq_true, List.all_eq_true, beq_iff_eq, decide_eq_true_eq] at h
      obtain ⟨⟨⟨⟨hdigits, rfl⟩, rfl⟩, hpos⟩, hle⟩ := h
      have hdigits : ∀ x ∈ [a, b, c, d] ++ [e, f] ++ [g, k], x.isDigit = true := hdigits
      obtain ⟨hrest, hday⟩ := List.forall_mem_append.mp hdigits
      obtain ⟨hyear, hmonth⟩ := List.forall_mem_append.mp hrest
      -- The numbers that stand there make a day, and its text is written with the same digits.
      have hlt : digitsValue [a, b, c, d] < 10 ^ 4 := digitsValue_lt hyear
      refine ⟨⟨_, _, _, by omega, hpos, hle⟩, ?_⟩
      have hy : fixedDigits 4 (digitsValue [a, b, c, d]) = [a, b, c, d] := fixedDigits_digitsValue hyear
      have hm : fixedDigits 2 (digitsValue [e, f]) = [e, f] := fixedDigits_digitsValue hmonth
      have hd : fixedDigits 2 (digitsValue [g, k]) = [g, k] := fixedDigits_digitsValue hday
      rw [CalendarDay.text, hy, hm, hd, ← String.toList_inj, hs, String.toList_ofList]
      rfl
    · cases h
  · rintro ⟨d, rfl⟩
    have hmonth := month_le_of_daysIn_pos (Nat.lt_of_lt_of_le d.day_pos d.day_le)
    have hday := Nat.le_trans d.day_le (daysIn_le d.year d.month)
    have hyear := d.year_lt
    have hyears : digitsValue (fixedDigits 4 d.year) = d.year := digitsValue_fixedDigits (by omega)
    have hmonths : digitsValue (fixedDigits 2 d.month) = d.month := digitsValue_fixedDigits (by omega)
    have hdays : digitsValue (fixedDigits 2 d.day) = d.day := digitsValue_fixedDigits (by omega)
    have hall : ∀ c ∈ fixedDigits 4 d.year ++ fixedDigits 2 d.month ++ fixedDigits 2 d.day,
        c.isDigit = true :=
      List.forall_mem_append.mpr ⟨List.forall_mem_append.mpr
        ⟨isDigit_fixedDigits 4 d.year, isDigit_fixedDigits 2 d.month⟩, isDigit_fixedDigits 2 d.day⟩
    -- The widths are fixed, so the text has the ten characters that are asked for.
    obtain ⟨a, b, c, e, hy⟩ : ∃ a b c e, fixedDigits 4 d.year = [a, b, c, e] := ⟨_, _, _, _, rfl⟩
    obtain ⟨f, g, hm⟩ : ∃ f g, fixedDigits 2 d.month = [f, g] := ⟨_, _, rfl⟩
    obtain ⟨i, j, hd⟩ : ∃ i j, fixedDigits 2 d.day = [i, j] := ⟨_, _, rfl⟩
    rw [hy] at hyears
    rw [hm] at hmonths
    rw [hd] at hdays
    rw [hy, hm, hd] at hall
    rw [CalendarDay.text, String.toList_ofList, hy, hm, hd]
    simp only [List.cons_append, List.nil_append, namesDay, hyears, hmonths, hdays, Bool.and_eq_true,
      decide_eq_true_eq, List.all_eq_true, beq_self_eq_true, and_true]
    exact ⟨⟨hall, d.day_pos⟩, d.day_le⟩

end Scaffold
