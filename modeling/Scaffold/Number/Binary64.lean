/-!
Floating point numbers of 64 bits, exactly. A finite number is a sign and a magnitude
`significand · 2^exponent` in the one form the format has for it, so two numbers are equal as values
of the type exactly when they are the same number with the same sign. Every result of arithmetic is
the exact result rounded to the nearest number, a tie to the even significand.
-/

namespace Scaffold

-- Powers are those of the core library, also in modules that see the powers of algebra.
attribute [instance (high), default_instance (high + 1)] instPowNat

/-- The significands and exponents of the format: 53 bits, all of them used unless the exponent is
the least one. -/
def FitsBinary64 (significand : Nat) (exponent : Int) : Prop :=
  significand < 2 ^ 53 ∧ -1074 ≤ exponent ∧ exponent ≤ 971 ∧
    (2 ^ 52 ≤ significand ∨ exponent = -1074)

instance (m : Nat) (e : Int) : Decidable (FitsBinary64 m e) :=
  inferInstanceAs (Decidable (_ ∧ _ ∧ _ ∧ (_ ∨ _)))

/-- The size of a finite number. -/
structure Magnitude where
  significand : Nat
  exponent : Int
  fits : FitsBinary64 significand exponent
deriving DecidableEq

/-- A floating point number of 64 bits. -/
inductive Binary64 where
  | finite (negative : Bool) (magnitude : Magnitude)
  | infinite (negative : Bool)
  | nan
deriving DecidableEq

namespace Magnitude

/-- The magnitude of zero. -/
def zero : Magnitude := ⟨0, -1074, by decide⟩

instance : Inhabited Magnitude := ⟨zero⟩

/-- The magnitude as a multiple of the least one, `2^-1074`. -/
def steps (m : Magnitude) : Nat := m.significand * 2 ^ (m.exponent + 1074).toNat

/-- The number of steps that make up one. -/
def one : Nat := 2 ^ 1074

end Magnitude

namespace Binary64

instance : Inhabited Binary64 := ⟨finite false .zero⟩

/-- Whether the number is neither infinite nor a NaN. -/
def isFinite : Binary64 → Bool
  | finite .. => true
  | _ => false

/-- The number as a multiple of `2^-1074`, if it is finite. -/
def steps? : Binary64 → Option Int
  | finite negative m => some (if negative then -(m.steps : Int) else m.steps)
  | _ => none

/-- Whether `x` is greater than `y`. A NaN is neither greater nor less than anything. -/
def exceeds : Binary64 → Binary64 → Bool
  | nan, _ | _, nan => false
  | infinite true, _ | _, infinite false => false
  | infinite false, _ => true
  | _, infinite true => true
  | x@(finite ..), y@(finite ..) => (y.steps?.getD 0) < (x.steps?.getD 0)

/-- The quotient to the nearest whole number, a tie to the even one. -/
def divNearest (num den : Nat) : Nat :=
  let q := num / den
  let r := num % den
  if den < 2 * r || (2 * r == den && q % 2 == 1) then q + 1 else q

/-- The exponent that gives the quotient of two positive numbers all the bits of a significand, or
the least exponent where that is greater. -/
def exponentOf (num den : Nat) : Int :=
  let l : Int := (num.log2 : Int) - den.log2
  let full := if den * 2 ^ l.toNat ≤ num * 2 ^ (-l).toNat then l - 52 else l - 53
  max full (-1074)

/-- The finite number with this significand and exponent, or the infinity beyond the greatest one.
-/
def ofParts (negative : Bool) (significand : Nat) (exponent : Int) : Binary64 :=
  if h : FitsBinary64 significand exponent then finite negative ⟨significand, exponent, h⟩
  else infinite negative

/-- The number nearest to `num / den`. -/
def ofRatio (negative : Bool) (num den : Nat) : Binary64 :=
  if num = 0 then finite negative .zero
  else
    let e := exponentOf num den
    let m := divNearest (num * 2 ^ (-e).toNat) (den * 2 ^ e.toNat)
    if m = 2 ^ 53 then ofParts negative (2 ^ 52) (e + 1) else ofParts negative m e

/-- The number nearest to `digits · 10^exponent`. Exponents far outside the format are settled
without computing the power. -/
def ofDecimal (negative : Bool) (digits : Nat) (exponent : Int) : Binary64 :=
  if digits = 0 then finite negative .zero
  else if 400 < exponent then infinite negative
  else if exponent + digits.log2 < -400 then finite negative .zero
  else ofRatio negative (digits * 10 ^ exponent.toNat) (10 ^ (-exponent).toNat)

/-- The product of two magnitudes. -/
def mul (negative : Bool) (x y : Magnitude) : Binary64 :=
  ofRatio negative (x.steps * y.steps) (Magnitude.one * Magnitude.one)

/-- The quotient of two magnitudes, the second not zero. -/
def div (negative : Bool) (x y : Magnitude) : Binary64 := ofRatio negative x.steps y.steps

end Binary64

end Scaffold
