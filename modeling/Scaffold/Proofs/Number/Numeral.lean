import Mathlib.Data.List.TakeWhile
import Scaffold.Json.Basic
import Scaffold.Number.Reading
import Scaffold.Proofs.Text.Alphabet

namespace Scaffold

/-- A decimal numeral without its sign. -/
structure Numeral where
  /-- The digits before the point. -/
  whole : List Char
  /-- The digits behind the point, if there is one. -/
  fraction : Option (List Char)
  /-- The power of ten behind the digits, if there is one. -/
  exponent : Option Int
deriving DecidableEq, Repr

namespace Numeral

/-- The number that a numeral stands for. -/
def value (n : Numeral) : Decimal :=
  ⟨digitsValue (n.whole ++ n.fraction.getD []), n.exponent.getD 0 - (n.fraction.getD []).length⟩

/-- The power of ten at the end of a numeral, if there is one. -/
def readTail? : List Char → Option (Option Int)
  | [] => some none
  | c :: rest => (readExponent? (c :: rest)).map some

/-- Digits, a point with digits, an exponent. Digits have to stand on one side of the point at least. -/
def read? (cs : List Char) : Option Numeral :=
  let whole := cs.takeWhile Char.isDigit
  match cs.dropWhile Char.isDigit with
  | '.' :: after =>
    let fraction := after.takeWhile Char.isDigit
    if whole.isEmpty && fraction.isEmpty then none
    else (readTail? (after.dropWhile Char.isDigit)).map fun e => ⟨whole, some fraction, e⟩
  | rest => if whole.isEmpty then none else (readTail? rest).map fun e => ⟨whole, none, e⟩

/-- The rule of ECMAScript: the whole part is the digit zero or does not begin with it. -/
def isScript (n : Numeral) : Bool := n.whole.length ≤ 1 || n.whole.head? != some '0'

/-- The rule of Python: a whole number is made of zeros or does not begin with one. A numeral with a
point or an exponent may begin as it likes. -/
def isPython (n : Numeral) : Bool :=
  n.fraction.isSome || n.exponent.isSome || n.whole.head? != some '0' || n.whole.all (· == '0')

theorem isScript_of_head? {n : Numeral} (h : n.whole.head? ≠ some '0') : n.isScript = true := by
  simp [isScript, h]

/-- The rule of ECMAScript is the stricter one. -/
theorem isPython_of_isScript {n : Numeral} (h : n.isScript = true) : n.isPython = true := by
  rw [isScript, Bool.or_eq_true, decide_eq_true_eq] at h
  rw [isPython]
  rcases h with hlength | hhead
  · -- One digit at most: it is a zero or it is not.
    cases hw : n.whole with
    | nil => simp
    | cons d rest =>
      have hrest : rest = [] := by
        rw [hw, List.length_cons] at hlength
        exact List.length_eq_zero_iff.mp (by omega)
      subst hrest
      by_cases hd : d = '0' <;> simp [hd]
  · simp [hhead]

theorem readTail?_getD {cs : List Char} : (readTail? cs).map (·.getD 0) = readExponent? cs := by
  cases cs with
  | nil => rfl
  | cons c rest =>
    rw [readTail?]
    cases readExponent? (c :: rest) <;> rfl

/-- The words for the numbers that are not finite, in small letters. -/
def words : List String := ["inf", "infinity", "nan"]

/-- Whether a text is such a word, in any case of letters. -/
def isWord (cs : List Char) : Bool := words.contains (String.ofList (cs.map Char.toLower))

/-- What is read as a number is a numeral, unless it is a word. -/
theorem readUnsigned?_eq {cs : List Char} (h : isWord cs = false) (negative : Bool) :
    readUnsigned? negative cs =
      (read? cs).map fun n => .ofDecimal negative n.value.digits n.value.exponent := by
  simp only [isWord, words, List.contains_cons, List.contains_nil, Bool.or_false,
    Bool.or_eq_false_iff, beq_eq_false_iff_ne] at h
  obtain ⟨hinf, hinfinity, hnan⟩ := h
  unfold readUnsigned? read?
  simp only [hinf, hinfinity, hnan, or_self, if_false]
  generalize cs.dropWhile Char.isDigit = rest
  split
  · simp only
    split
    · rfl
    · rw [← readTail?_getD, Option.map_map, Option.map_map]
      rfl
  · next hpoint =>
    simp only [List.isEmpty_nil, Bool.and_true, List.append_nil, List.length_nil]
    split
    · rfl
    · rw [← readTail?_getD, Option.map_map, Option.map_map]
      simp only [Function.comp_def, value, Option.getD_none, List.append_nil, List.length_nil]

variable {cs : List Char} {n : Numeral}

theorem whole_of_read? (h : read? cs = some n) : n.whole = cs.takeWhile Char.isDigit := by
  unfold read? at h
  dsimp only at h
  split at h <;> split at h
  · cases h
  · obtain ⟨e, -, rfl⟩ := Option.map_eq_some_iff.mp h
    rfl
  · cases h
  · obtain ⟨e, -, rfl⟩ := Option.map_eq_some_iff.mp h
    rfl

/-- A numeral begins with a digit or a point. -/
theorem exists_cons_of_read? (h : read? cs = some n) :
    ∃ c rest, cs = c :: rest ∧ (c.isDigit = true ∨ c = '.') := by
  cases cs with
  | nil => cases h
  | cons c rest =>
    refine ⟨c, rest, rfl, ?_⟩
    by_contra hc
    obtain ⟨hdigit, hpoint⟩ := not_or.mp hc
    rw [read?, List.takeWhile_cons_of_neg hdigit, List.dropWhile_cons_of_neg hdigit] at h
    split at h
    · next after hafter => exact hpoint (List.cons_eq_cons.mp hafter).1
    · cases h

/-- A numeral has no sign. -/
theorem takeSign_of_read? (h : read? cs = some n) : takeSign cs = (false, cs) := by
  obtain ⟨c, rest, rfl, hc⟩ := exists_cons_of_read? h
  have hminus : c ≠ '-' := by
    rintro rfl
    exact absurd hc (by decide)
  have hplus : c ≠ '+' := by
    rintro rfl
    exact absurd hc (by decide)
  unfold takeSign
  split
  · next hcons => exact absurd (List.cons_eq_cons.mp hcons).1 hminus
  · next hcons => exact absurd (List.cons_eq_cons.mp hcons).1 hplus
  · rfl

theorem not_isAlpha_of_isDigit {c : Char} (h : c.isDigit = true) : c.isAlpha = false := by
  simp only [Char.isDigit, Bool.and_eq_true, decide_eq_true_eq, UInt32.le_iff_toNat_le,
    Char.reduceVal, UInt32.reduceToNat] at h
  have hval : c.toNat = c.val.toNat := rfl
  rw [← Bool.not_eq_true, Text.isAlpha_iff]
  omega

/-- A numeral is not a word: words begin with a letter. -/
theorem isWord_of_read? (h : read? cs = some n) : isWord cs = false := by
  obtain ⟨c, rest, rfl, hc⟩ := exists_cons_of_read? h
  by_contra hword
  rw [Bool.not_eq_false, isWord, List.contains_iff_mem] at hword
  have hletters : (words.all fun w => w.toList.head?.all Char.isAlpha) = true := by decide
  have halpha : c.isAlpha = true := by
    have hfirst := List.all_eq_true.mp hletters _ hword
    rw [String.toList_ofList, List.map_cons, List.head?_cons] at hfirst
    exact isAlpha_of_isAlpha_toLower hfirst
  rcases hc with hdigit | rfl
  · rw [not_isAlpha_of_isDigit hdigit] at halpha
    cases halpha
  · exact absurd halpha (by decide)

theorem numberText_of_read? (h : read? cs = some n) : NumberText cs := by
  have heq := readUnsigned?_eq (isWord_of_read? h) false
  rw [h] at heq
  exact numberText_of_readUnsigned? heq

/-- Digits alone are a whole number. -/
theorem read?_of_all_isDigit (hne : cs ≠ []) (h : cs.all Char.isDigit = true) :
    read? cs = some ⟨cs, none, none⟩ := by
  have hall := List.all_eq_true.mp h
  rw [read?, List.takeWhile_eq_self_iff.mpr hall, List.dropWhile_eq_nil_iff.mpr hall]
  simp only [List.isEmpty_iff, hne, if_false, readTail?, Option.map_some]

/-- Whether a digit follows a zero at the beginning. -/
def isPadded : List Char → Bool
  | '0' :: d :: _ => d.isDigit
  | _ => false

/-- A zero with a digit behind it begins a whole part of two digits at least. -/
theorem isPadded_eq (cs : List Char) :
    isPadded cs = ((cs.takeWhile Char.isDigit).head? == some '0' &&
      decide (2 ≤ (cs.takeWhile Char.isDigit).length)) := by
  match cs with
  | [] => rfl
  | [c] => by_cases hc : c.isDigit <;> by_cases h0 : c = '0' <;> simp [isPadded, hc, h0]
  | c :: d :: rest =>
    by_cases h0 : c = '0'
    · subst h0
      have hzero : ('0' : Char).isDigit = true := rfl
      by_cases hd : d.isDigit = true <;> simp [isPadded, hzero, hd]
    · have hleft : isPadded (c :: d :: rest) = false := by
        unfold isPadded
        split
        · next hcons => exact absurd (List.cons_eq_cons.mp hcons).1 h0
        · rfl
      by_cases hc : c.isDigit = true <;> simp [hleft, List.takeWhile_cons, hc, h0]

theorem isScript_eq (h : read? cs = some n) : n.isScript = !isPadded cs := by
  rw [isScript, isPadded_eq, whole_of_read? h]
  by_cases hlength : (cs.takeWhile Char.isDigit).length ≤ 1
  · have hshort : ¬2 ≤ (cs.takeWhile Char.isDigit).length := by omega
    simp [hlength, hshort]
  · have hlong : 2 ≤ (cs.takeWhile Char.isDigit).length := by omega
    simp [hlength, hlong, bne]

/-- A numeral is a whole number exactly when it has nothing but digits. -/
theorem isSome_or_isSome_eq (h : read? cs = some n) :
    (n.fraction.isSome || n.exponent.isSome) = !cs.all Char.isDigit := by
  by_cases hall : cs.all Char.isDigit = true
  · have hne : cs ≠ [] := by
      rintro rfl
      cases h
    rw [read?_of_all_isDigit hne hall] at h
    cases h
    simp [hall]
  · have hrest : cs.dropWhile Char.isDigit ≠ [] := by
      rw [ne_eq, List.dropWhile_eq_nil_iff]
      simpa using hall
    rw [Bool.not_eq_true] at hall
    rw [hall, Bool.not_false]
    unfold read? at h
    dsimp only at h
    split at h <;> split at h
    · cases h
    · obtain ⟨e, -, rfl⟩ := Option.map_eq_some_iff.mp h
      rfl
    · cases h
    · obtain ⟨e, he, rfl⟩ := Option.map_eq_some_iff.mp h
      obtain ⟨c, rest, hcons⟩ := List.exists_cons_of_ne_nil hrest
      rw [hcons, readTail?] at he
      obtain ⟨k, -, rfl⟩ := Option.map_eq_some_iff.mp he
      rfl

theorem isPython_eq (h : read? cs = some n) :
    n.isPython = !(isPadded cs && cs.all Char.isDigit && cs.any (· != '0')) := by
  rw [isPython, isSome_or_isSome_eq h, whole_of_read? h]
  by_cases hall : cs.all Char.isDigit = true
  · have hwhole : cs.takeWhile Char.isDigit = cs :=
      List.takeWhile_eq_self_iff.mpr (List.all_eq_true.mp hall)
    have hany : cs.any (· != '0') = !cs.all (· == '0') := by
      rw [List.not_all_eq_any_not]
      rfl
    rw [isPadded_eq, hwhole, hall, hany]
    match cs with
    | [] => rfl
    | [c] => by_cases h0 : c = '0' <;> simp [h0]
    | c :: d :: rest => by_cases h0 : c = '0' <;> simp [h0, bne]
  · rw [Bool.not_eq_true] at hall
    simp [hall]

theorem dropWhile_eq_of_takeWhile_eq_nil {p : Char → Bool} {l : List Char} (h : l.takeWhile p = []) :
    l.dropWhile p = l := by
  conv_rhs => rw [← List.takeWhile_append_dropWhile (p := p) (l := l), h]
  rfl

variable {e : Option Int}

/-- Digits, a point and digits, and a tail that does not go on with digits. -/
theorem read?_point (whole fraction tail : List Char) (hw : ∀ c ∈ whole, c.isDigit = true) (hne : whole ≠ [])
    (hf : ∀ c ∈ fraction, c.isDigit = true) (ht : tail.takeWhile Char.isDigit = [])
    (he : readTail? tail = some e) :
    read? (whole ++ '.' :: (fraction ++ tail)) = some ⟨whole, some fraction, e⟩ := by
  have hpoint : ¬('.' : Char).isDigit = true := by decide
  rw [read?, List.takeWhile_append_of_pos hw, List.dropWhile_append_of_pos hw,
    List.takeWhile_cons_of_neg hpoint, List.dropWhile_cons_of_neg hpoint, List.append_nil]
  simp only [List.takeWhile_append_of_pos hf, List.dropWhile_append_of_pos hf, ht,
    dropWhile_eq_of_takeWhile_eq_nil ht, he, List.append_nil, List.isEmpty_eq_false_iff.mpr hne,
    Bool.false_and, Bool.false_eq_true, if_false, Option.map_some]

/-- Digits and a tail that goes on with neither digits nor a point. -/
theorem read?_plain (whole tail : List Char) (hw : ∀ c ∈ whole, c.isDigit = true) (hne : whole ≠ [])
    (ht : tail.takeWhile Char.isDigit = []) (hpoint : tail.head? ≠ some '.')
    (he : readTail? tail = some e) : read? (whole ++ tail) = some ⟨whole, none, e⟩ := by
  unfold read?
  rw [List.takeWhile_append_of_pos hw, List.dropWhile_append_of_pos hw, ht,
    dropWhile_eq_of_takeWhile_eq_nil ht, List.append_nil]
  split
  · exact absurd rfl hpoint
  · simp only [List.isEmpty_eq_false_iff.mpr hne, Bool.false_eq_true, if_false, he, Option.map_some]

end Numeral

theorem digitsValue_toDigits (n : Nat) : digitsValue (Nat.toDigits 10 n) = n :=
  Nat.ofDigitChars_toDigits (by decide) (by decide)

theorem isDigit_toDigits (n : Nat) : ∀ c ∈ Nat.toDigits 10 n, c.isDigit = true :=
  fun _ hc => Nat.isDigit_of_mem_toDigits (by decide) (by decide) hc

/-- The ten digits by their characters. -/
theorem mem_digits_of_isDigit {c : Char} (h : c.isDigit = true) :
    c ∈ ['0', '1', '2', '3', '4', '5', '6', '7', '8', '9'] := by
  have hcode : ∀ n < 58, 48 ≤ n → Char.ofNat n ∈ ['0', '1', '2', '3', '4', '5', '6', '7', '8', '9'] := by decide
  obtain ⟨hlow, hhigh⟩ : 48 ≤ c.toNat ∧ c.toNat ≤ 57 := by
    rw [Char.isDigit, Bool.and_eq_true, decide_eq_true_eq, decide_eq_true_eq] at h
    exact h
  rw [← Char.ofNat_toNat c]
  exact hcode c.toNat (by omega) hlow

/-- A positive number does not begin with a zero. -/
theorem head?_toDigits {n : Nat} (h : 0 < n) : (Nat.toDigits 10 n).head? ≠ some '0' := by
  induction n using Nat.strong_induction_on with
  | _ n ih =>
    by_cases hn : n < 10
    · rw [Nat.toDigits_of_lt_base hn, List.head?_cons]
      have hdigit : ∀ d < 10, 0 < d → some d.digitChar ≠ some '0' := by decide
      exact hdigit n hn h
    · have hsplit : Nat.toDigits 10 n = Nat.toDigits 10 (n / 10) ++ Nat.toDigits 10 (n % 10) := by
        rw [Nat.toDigits_append_toDigits (by decide) (by omega) (by omega), Nat.div_add_mod]
      rw [hsplit, List.head?_append_of_ne_nil _ Nat.toDigits_ne_nil]
      exact ih (n / 10) (by omega) (by omega)

theorem all_isDigit_zeros (k : Nat) : ∀ c ∈ List.replicate k '0', c.isDigit = true :=
  fun _ hc => List.eq_of_mem_replicate hc ▸ rfl

/-- Digits as a positive number has them: there are some, and the first one is not a zero. -/
structure LeadingDigits (ds : List Char) : Prop where
  isDigit : ∀ c ∈ ds, c.isDigit = true
  ne_nil : ds ≠ []
  not_zero : ds.head? ≠ some '0'

theorem leadingDigits_toDigits {n : Nat} (h : 0 < n) : LeadingDigits (Nat.toDigits 10 n) :=
  ⟨isDigit_toDigits n, Nat.toDigits_ne_nil, head?_toDigits h⟩

namespace LeadingDigits

variable {ds : List Char}

theorem append_zeros (h : LeadingDigits ds) (k : Nat) : LeadingDigits (ds ++ List.replicate k '0') where
  isDigit := List.forall_mem_append.mpr ⟨h.isDigit, all_isDigit_zeros k⟩
  ne_nil := List.append_ne_nil_of_left_ne_nil h.ne_nil _
  not_zero := by
    rw [List.head?_append_of_ne_nil _ h.ne_nil]
    exact h.not_zero

theorem take (h : LeadingDigits ds) {n : Nat} (hn : 0 < n) : LeadingDigits (ds.take n) where
  isDigit := fun c hc => h.isDigit c (List.mem_of_mem_take hc)
  ne_nil := by
    rw [ne_eq, List.take_eq_nil_iff, not_or]
    exact ⟨hn.ne', h.ne_nil⟩
  not_zero := by
    rw [List.head?_take, if_neg hn.ne']
    exact h.not_zero

end LeadingDigits

/-- Zeros in front of digits do not count. -/
theorem digitsValue_zeros_append (k : Nat) (ds : List Char) :
    digitsValue (List.replicate k '0' ++ ds) = digitsValue ds := by
  calc digitsValue (List.replicate k '0' ++ ds)
      = Nat.ofDigitChars 10 ds (Nat.ofDigitChars 10 (List.replicate k '0') 0) := Nat.ofDigitChars_append 0
    _ = digitsValue ds := by rw [Nat.ofDigitChars_replicate_zero, Nat.mul_zero]; rfl

/-- Each zero behind digits is a factor of ten. -/
theorem digitsValue_append_zeros (ds : List Char) (k : Nat) :
    digitsValue (ds ++ List.replicate k '0') = digitsValue ds * 10 ^ k := by
  calc digitsValue (ds ++ List.replicate k '0')
      = Nat.ofDigitChars 10 (List.replicate k '0') (digitsValue ds) := Nat.ofDigitChars_append 0
    _ = digitsValue ds * 10 ^ k := by rw [Nat.ofDigitChars_replicate_zero, Nat.mul_comm]

/-- Whether a decimal is another one with zeros behind its digits, or both are zero. Their values are the
same. -/
def Decimal.Pads (d' d : Decimal) : Prop :=
  d.digits = 0 ∧ d'.digits = 0 ∨ ∃ k : Nat, d' = ⟨d.digits * 10 ^ k, d.exponent - k⟩

namespace NumberLayout

variable {ds : List Char}

/-- Whether a text is a numeral that both rules allow and that stands for a decimal. In a layout where
whole numbers show a fraction the text is not digits alone. -/
def Sets (layout : NumberLayout) (cs : List Char) (d : Decimal) : Prop :=
  ∃ n, Numeral.read? cs = some n ∧ n.isScript = true ∧ n.value.Pads d ∧
    (layout.wholeHasFraction = true → (n.fraction.isSome || n.exponent.isSome) = true)

/-- Digits in positional notation stand behind the point, before it, or on both sides of it. -/
theorem setPositional_cases (layout : NumberLayout) (ds : List Char) (point : Int) :
    (∃ zeros : Nat, point = -(zeros : Int) ∧
      layout.setPositional ds point = '0' :: '.' :: (List.replicate zeros '0' ++ ds)) ∨
    (∃ zeros : Nat, point = ds.length + zeros ∧ layout.setPositional ds point =
      ds ++ List.replicate zeros '0' ++ if layout.wholeHasFraction then ['.', '0'] else []) ∨
    ∃ n, 0 < n ∧ n < ds.length ∧ point = n ∧
      layout.setPositional ds point = ds.take n ++ '.' :: ds.drop n := by
  unfold setPositional
  dsimp only
  split
  · exact .inl ⟨(-point).toNat, by omega, rfl⟩
  · split
    · exact .inr (.inl ⟨point.toNat - ds.length, by omega, rfl⟩)
    · exact .inr (.inr ⟨point.toNat, by omega, by omega, by omega, rfl⟩)

/-- All digits behind the point. -/
theorem sets_behindPoint (layout : NumberLayout) (hds : LeadingDigits ds) (zeros : Nat) :
    layout.Sets ('0' :: '.' :: (List.replicate zeros '0' ++ ds))
      ⟨digitsValue ds, -(zeros : Int) - ds.length⟩ := by
  have hzero : ∀ c ∈ ['0'], c.isDigit = true := List.forall_mem_singleton.mpr rfl
  have hfraction : ∀ c ∈ List.replicate zeros '0' ++ ds, c.isDigit = true :=
    List.forall_mem_append.mpr ⟨all_isDigit_zeros _, hds.isDigit⟩
  have hread := Numeral.read?_point ['0'] _ [] hzero (List.cons_ne_nil _ _) hfraction rfl rfl
  rw [List.append_nil] at hread
  have hvalue : digitsValue ('0' :: (List.replicate zeros '0' ++ ds)) = digitsValue ds :=
    digitsValue_zeros_append (zeros + 1) ds
  refine ⟨_, hread, rfl, .inr ⟨0, ?_⟩, fun _ => rfl⟩
  simp only [Numeral.value, Option.getD_some, Option.getD_none, List.singleton_append, hvalue,
    List.length_append, List.length_replicate, Decimal.mk.injEq]
  omega

/-- All digits before the point. Where whole numbers show a fraction it is one more zero behind the
digits, so that the decimal is padded once more. -/
theorem sets_beforePoint (layout : NumberLayout) (hds : LeadingDigits ds) (zeros : Nat) :
    layout.Sets (ds ++ List.replicate zeros '0' ++ if layout.wholeHasFraction then ['.', '0'] else [])
      ⟨digitsValue ds, zeros⟩ := by
  have hwhole := hds.append_zeros zeros
  by_cases hfraction : layout.wholeHasFraction = true
  · have hread := Numeral.read?_point _ ['0'] [] hwhole.isDigit hwhole.ne_nil (all_isDigit_zeros 1) rfl rfl
    have hvalue := digitsValue_append_zeros ds (zeros + 1)
    rw [List.replicate_succ', ← List.append_assoc] at hvalue
    rw [if_pos hfraction]
    refine ⟨_, hread, Numeral.isScript_of_head? hwhole.not_zero, .inr ⟨zeros + 1, ?_⟩, fun _ => rfl⟩
    simp only [Numeral.value, Option.getD_some, Option.getD_none, hvalue, List.length_singleton,
      Decimal.mk.injEq, true_and]
    omega
  · have hread := Numeral.read?_plain _ [] hwhole.isDigit hwhole.ne_nil rfl nofun rfl
    rw [if_neg hfraction]
    refine ⟨_, hread, Numeral.isScript_of_head? hwhole.not_zero, .inr ⟨zeros, ?_⟩,
      fun h => absurd h hfraction⟩
    simp only [Numeral.value, Option.getD_none, List.append_nil, digitsValue_append_zeros,
      List.length_nil, Decimal.mk.injEq, true_and]
    omega

/-- The point between two digits. -/
theorem sets_aroundPoint (layout : NumberLayout) (hds : LeadingDigits ds) {n : Nat} (hpos : 0 < n)
    (hlength : n < ds.length) :
    layout.Sets (ds.take n ++ '.' :: ds.drop n) ⟨digitsValue ds, n - ds.length⟩ := by
  have hwhole := hds.take hpos
  have hread := Numeral.read?_point (ds.take n) (ds.drop n) [] hwhole.isDigit hwhole.ne_nil
    (fun c hc => hds.isDigit c (List.mem_of_mem_drop hc)) rfl rfl
  rw [List.append_nil] at hread
  refine ⟨_, hread, Numeral.isScript_of_head? hwhole.not_zero, .inr ⟨0, ?_⟩, fun _ => rfl⟩
  simp only [Numeral.value, Option.getD_some, Option.getD_none, List.take_append_drop,
    List.length_drop, Decimal.mk.injEq]
  omega

theorem sets_setPositional (layout : NumberLayout) (hds : LeadingDigits ds) (point : Int) :
    layout.Sets (layout.setPositional ds point) ⟨digitsValue ds, point - ds.length⟩ := by
  obtain ⟨zeros, rfl, htext⟩ | ⟨zeros, rfl, htext⟩ | ⟨n, hpos, hlength, rfl, htext⟩ :=
    layout.setPositional_cases ds point
  · rw [htext]
    exact layout.sets_behindPoint hds zeros
  · have hzeros : (ds.length : Int) + zeros - ds.length = zeros := by omega
    rw [htext, hzeros]
    exact layout.sets_beforePoint hds zeros
  · rw [htext]
    exact layout.sets_aroundPoint hds hpos hlength

/-- An exponent with its sign is read as the power that it was written for. -/
theorem exists_readTail?_exponent (exponent : Int) :
    ∃ sign, (if exponent < 0 then ['e', '-'] else ['e', '+']) = ['e', sign] ∧
      Numeral.readTail? ('e' :: sign :: Nat.toDigits 10 exponent.natAbs) = some (some exponent) := by
  have hdigits : (Nat.toDigits 10 exponent.natAbs).isEmpty = false ∧
      (Nat.toDigits 10 exponent.natAbs).all Char.isDigit = true :=
    ⟨List.isEmpty_eq_false_iff.mpr Nat.toDigits_ne_nil, List.all_eq_true.mpr (isDigit_toDigits _)⟩
  by_cases hneg : exponent < 0
  · have hvalue : -(exponent.natAbs : Int) = exponent := by omega
    refine ⟨'-', if_pos hneg, ?_⟩
    simp only [Numeral.readTail?, readExponent?, takeSign, true_or, if_true, hdigits.1, hdigits.2,
      Bool.not_true, Bool.or_self, Bool.false_eq_true, if_false, digitsValue_toDigits, hvalue,
      Option.map_some]
  · have hvalue : (exponent.natAbs : Int) = exponent := by omega
    refine ⟨'+', if_neg hneg, ?_⟩
    simp only [Numeral.readTail?, readExponent?, takeSign, true_or, if_true, hdigits.1, hdigits.2,
      Bool.not_true, Bool.or_self, Bool.false_eq_true, if_false, digitsValue_toDigits, hvalue,
      Option.map_some]

theorem sets_setScientific (layout : NumberLayout) (hds : LeadingDigits ds) (exponent : Int) :
    layout.Sets (setScientific ds exponent) ⟨digitsValue ds, exponent + 1 - ds.length⟩ := by
  obtain ⟨d, rest, rfl⟩ := List.exists_cons_of_ne_nil hds.ne_nil
  have hone : ∀ c ∈ [d], c.isDigit = true := List.forall_mem_singleton.mpr (hds.isDigit d List.mem_cons_self)
  obtain ⟨sign, hsign, htail⟩ := exists_readTail?_exponent exponent
  unfold setScientific
  dsimp only
  rw [hsign]
  split
  · next hlength =>
    obtain rfl : rest = [] := List.length_eq_zero_iff.mp (by rw [List.length_cons] at hlength; omega)
    have hpoint : some 'e' ≠ some '.' := by decide
    have hread := Numeral.read?_plain [d] ('e' :: sign :: _) hone (List.cons_ne_nil _ _) rfl hpoint htail
    refine ⟨_, hread, rfl, .inr ⟨0, ?_⟩, fun _ => rfl⟩
    simp [Numeral.value]
  · have hread := Numeral.read?_point [d] rest _ hone (List.cons_ne_nil _ _)
      (fun c hc => hds.isDigit c (List.mem_cons_of_mem _ hc)) rfl htail
    refine ⟨⟨[d], some rest, some exponent⟩, ?_, rfl, .inr ⟨0, ?_⟩, fun _ => rfl⟩
    · simpa only [List.take_succ_cons, List.take_zero, List.drop_succ_cons, List.drop_zero,
        List.append_assoc, List.cons_append, List.nil_append] using hread
    · simp only [Numeral.value, Option.getD_some, List.singleton_append, List.length_cons,
        Decimal.mk.injEq]
      omega

/-- A magnitude is written as its shortest decimal. -/
theorem sets_setMagnitude (layout : NumberLayout) (m : Magnitude) :
    layout.Sets (layout.setMagnitude m) (m.shortest layout.tie) := by
  unfold setMagnitude
  dsimp only
  split
  · next hzero =>
    by_cases hfraction : layout.wholeHasFraction = true
    · refine ⟨⟨['0'], some ['0'], none⟩, ?_, rfl, .inl ⟨hzero, rfl⟩, fun _ => rfl⟩
      rw [setPositional, if_pos hfraction]
      decide
    · refine ⟨⟨['0'], none, none⟩, ?_, rfl, .inl ⟨hzero, rfl⟩, fun h => absurd h hfraction⟩
      rw [setPositional, if_neg hfraction]
      decide
  · next hdigits =>
    generalize m.shortest layout.tie = d at hdigits ⊢
    obtain ⟨digits, exponent⟩ := d
    have hds := leadingDigits_toDigits (Nat.pos_of_ne_zero hdigits)
    -- Both ways to write the digits give the same value, so it does not matter which one the layout takes.
    have hpositional := layout.sets_setPositional hds
      (exponent + (Nat.toDigits 10 digits).length - 1 + 1)
    have hscientific := layout.sets_setScientific hds
      (exponent + (Nat.toDigits 10 digits).length - 1)
    have hpoint : exponent + (Nat.toDigits 10 digits).length - 1 + 1 - (Nat.toDigits 10 digits).length =
        exponent := by omega
    rw [digitsValue_toDigits, hpoint] at hpositional hscientific
    split
    · split
      · exact hpositional
      · exact hscientific
    · exact hpositional

end NumberLayout

theorem Numeral.read?_toDigits (n : Nat) :
    read? (Nat.toDigits 10 n) = some ⟨Nat.toDigits 10 n, none, none⟩ :=
  read?_of_all_isDigit Nat.toDigits_ne_nil (List.all_eq_true.mpr (isDigit_toDigits n))

theorem Numeral.isScript_toDigits (n : Nat) : isScript ⟨Nat.toDigits 10 n, none, none⟩ = true := by
  rcases Nat.eq_zero_or_pos n with rfl | hn
  · rfl
  · exact isScript_of_head? (head?_toDigits hn)

namespace JsonNumber

/-- The integer that a number is by its kind. -/
def integer? : JsonNumber → Option Int
  | natural n => some n.toNat
  | negative n _ => some (-n)
  | fraction .. => none

theorem exists_integer? {j : JsonNumber} (h : j.isInteger = true) : ∃ i, j.integer? = some i := by
  cases j with
  | natural n => exact ⟨_, rfl⟩
  | negative n _ => exact ⟨_, rfl⟩
  | fraction minus m => cases h

/-- An integer is written as its digits behind a sign. -/
theorem takeSign_text {j : JsonNumber} {i : Int} (h : j.integer? = some i) :
    ∃ minus n, takeSign j.text.toList = (minus, Nat.toDigits 10 n) ∧
      i = if minus then -(n : Int) else n := by
  cases j with
  | natural n =>
    refine ⟨false, n.toNat, ?_, (Option.some.inj h).symm⟩
    rw [text, String.toList_ofList]
    exact Numeral.takeSign_of_read? (Numeral.read?_toDigits _)
  | negative n _ =>
    refine ⟨true, n, ?_, (Option.some.inj h).symm⟩
    rw [text, String.toList_ofList]
    rfl
  | fraction minus m => cases h

/-- A number is written as a numeral that both rules allow. -/
theorem exists_read?_text (j : JsonNumber) :
    ∃ n, Numeral.read? (takeSign j.text.toList).2 = some n ∧ n.isScript = true := by
  cases hi : j.integer? with
  | some i =>
    obtain ⟨minus, n, hsign, -⟩ := takeSign_text hi
    exact ⟨_, hsign ▸ Numeral.read?_toDigits n, Numeral.isScript_toDigits n⟩
  | none =>
    cases j with
    | natural n => cases hi
    | negative n _ => cases hi
    | fraction minus m =>
      obtain ⟨n, hread, hscript, -⟩ := NumberLayout.json.sets_setMagnitude m
      refine ⟨n, ?_, hscript⟩
      rw [text, NumberLayout.set, String.toList_ofList]
      cases minus with
      | false =>
        rw [if_neg Bool.false_ne_true, List.nil_append, Numeral.takeSign_of_read? hread]
        exact hread
      | true => exact hread

end JsonNumber

end Scaffold
