import Scaffold.Proofs.Number.Numeral
import Scaffold.Proofs.Number.Shortest

namespace Scaffold

/-- A padded decimal has the value of the decimal. -/
theorem Decimal.Pads.toRat_eq {d' d : Decimal} (h : d'.Pads d) : d'.toRat = d.toRat := by
  rcases h with ⟨hzero, hzero'⟩ | ⟨k, rfl⟩
  · rw [toRat, toRat, hzero, hzero', Nat.cast_zero, zero_mul, zero_mul]
  · have hten : (10 : ℚ) ≠ 0 := by norm_num
    rw [toRat, toRat, zpow_sub₀ hten, zpow_natCast]
    push_cast
    field_simp

/-- A numeral behind a sign. -/
structure SignedNumeral where
  negative : Bool
  numeral : Numeral
deriving DecidableEq, Repr

namespace SignedNumeral

/-- Reads a numeral behind its sign, if it has one. -/
def read? (cs : List Char) : Option SignedNumeral :=
  let (negative, ds) := takeSign cs
  (Numeral.read? ds).map fun n => ⟨negative, n⟩

/-- The number nearest to a numeral. -/
def toBinary64 (n : SignedNumeral) : Binary64 :=
  .ofDecimal n.negative n.numeral.value.digits n.numeral.value.exponent

/-- The number of JSON that is spelled like this. Digits alone are an integer, if it fits 64 bits; a point
or an exponent makes a fraction. -/
def toJson? (n : SignedNumeral) : Option JsonNumber :=
  if n.numeral.fraction.isSome || n.numeral.exponent.isSome then
    match n.toBinary64 with
    | .finite negative m => some (.fraction negative m)
    | _ => none
  else
    let digits := digitsValue n.numeral.whole
    if n.negative then if h : 0 < digits ∧ digits ≤ 2 ^ 63 then some (.negative digits h) else none
    else if digits < 2 ^ 64 then some (.natural (UInt64.ofNat digits)) else none

theorem read?_of_numeral (negative : Bool) {cs : List Char} {n : Numeral} (h : Numeral.read? cs = some n) :
    read? ((if negative then ['-'] else []) ++ cs) = some ⟨negative, n⟩ := by
  cases negative with
  | false =>
    rw [if_neg Bool.false_ne_true, List.nil_append, read?, Numeral.takeSign_of_read? h]
    simp only [h, Option.map_some]
  | true =>
    rw [if_pos rfl, List.singleton_append, read?]
    simp only [takeSign, h, Option.map_some]

end SignedNumeral

/-- A finite number is read back from its text in every layout. -/
theorem NumberLayout.exists_read?_set (layout : NumberLayout) (negative : Bool) (m : Magnitude) :
    ∃ n, SignedNumeral.read? (layout.set (.finite negative m)).toList = some n ∧
      n.toBinary64 = .finite negative m ∧
      (layout.wholeHasFraction = true →
        (n.numeral.fraction.isSome || n.numeral.exponent.isSome) = true) := by
  obtain ⟨n, hread, -, hpads, hfraction⟩ := layout.sets_setMagnitude m
  refine ⟨⟨negative, n⟩, ?_, Binary64.ofDecimal_of_toRat_eq negative hpads.toRat_eq, hfraction⟩
  rw [set, String.toList_ofList]
  exact SignedNumeral.read?_of_numeral negative hread

/-- A bound is read back from its text. -/
theorem Binary64.exists_read?_text {x : Binary64} (h : x.isFinite = true) :
    ∃ n, SignedNumeral.read? x.text.toList = some n ∧ n.toBinary64 = x := by
  cases x with
  | finite negative m =>
    obtain ⟨n, hread, hvalue, -⟩ := NumberLayout.plain.exists_read?_set negative m
    exact ⟨n, hread, hvalue⟩
  | infinite negative => cases h
  | nan => cases h

/-- A number of a description is read back from its text, also by its kind. -/
theorem JsonNumber.exists_read?_toJson? (j : JsonNumber) :
    ∃ n, SignedNumeral.read? j.text.toList = some n ∧ n.toJson? = some j := by
  cases j with
  | natural n =>
    refine ⟨⟨false, Nat.toDigits 10 n.toNat, none, none⟩, ?_, ?_⟩
    · rw [text, String.toList_ofList]
      exact SignedNumeral.read?_of_numeral false (Numeral.read?_toDigits _)
    · simp [SignedNumeral.toJson?, digitsValue_toDigits, UInt64.toNat_lt n]
  | negative n bounds =>
    refine ⟨⟨true, Nat.toDigits 10 n, none, none⟩, ?_, ?_⟩
    · rw [text, String.toList_ofList]
      exact SignedNumeral.read?_of_numeral true (Numeral.read?_toDigits _)
    · simp [SignedNumeral.toJson?, digitsValue_toDigits, bounds]
  | fraction minus m =>
    obtain ⟨n, hread, hvalue, hfraction⟩ := NumberLayout.json.exists_read?_set minus m
    refine ⟨n, hread, ?_⟩
    rw [SignedNumeral.toJson?, if_pos (hfraction rfl), hvalue]

end Scaffold
