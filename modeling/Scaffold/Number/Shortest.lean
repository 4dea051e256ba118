import Scaffold.Number.Binary64

namespace Scaffold

/-- A decimal `digits · 10^exponent`. -/
structure Decimal where
  digits : Nat
  exponent : Int
deriving DecidableEq, Repr

/-- What to do when two shortest decimals lie equally near. -/
inductive Tie where
  | toEven
  | up
deriving DecidableEq, Repr

namespace Magnitude

/-- The exponent of the leading decimal digit of a magnitude that is not zero. The value is scaled
up until its whole part has that digit. -/
def leadingExponent (m : Magnitude) : Int :=
  ((Nat.toDigits 10 (m.steps * 10 ^ 330 / one)).length : Int) - 331

/-- Whether a decimal reads back as the magnitude. -/
def readsBack (m : Magnitude) (d : Decimal) : Bool :=
  Binary64.ofDecimal false d.digits d.exponent == .finite false m

/-- The decimal on the grid of step `10^k` that reads back as the magnitude and lies nearest to it,
if the grid has one. Only the two neighbours of the value can. -/
def onGrid? (m : Magnitude) (tie : Tie) (k : Int) : Option Decimal :=
  let num := m.steps * 10 ^ (-k).toNat
  let den := one * 10 ^ k.toNat
  let low : Decimal := ⟨num / den, k⟩
  let high : Decimal := ⟨num / den + 1, k⟩
  match m.readsBack low, m.readsBack high with
  | true, false => some low
  | false, true => some high
  | false, false => none
  | true, true =>
    let twice := 2 * (num % den)
    if twice < den then some low
    else if den < twice then some high
    else match tie with
      | .up => some high
      | .toEven => if low.digits % 2 = 0 then some low else some high

/-- The first grid from step `10^k` down, `fuel` grids at most, that has a decimal for the
magnitude. -/
def searchGrids (m : Magnitude) (tie : Tie) : Nat → Int → Decimal
  | 0, k => ⟨m.steps * 10 ^ (-k).toNat / (one * 10 ^ k.toNat), k⟩
  | fuel + 1, k =>
    match m.onGrid? tie k with
    | some d => d
    | none => searchGrids m tie fuel (k - 1)

end Magnitude

/-- The decimal without zeros at its end; `fuel` bounds their number. -/
def Decimal.stripZeros : Nat → Decimal → Decimal
  | 0, d => d
  | fuel + 1, d =>
    if d.digits ≠ 0 ∧ d.digits % 10 = 0 then stripZeros fuel ⟨d.digits / 10, d.exponent + 1⟩ else d

/-- The shortest decimal of a magnitude. Seventeen digits always suffice. -/
def Magnitude.shortest (m : Magnitude) (tie : Tie) : Decimal :=
  if m.significand = 0 then ⟨0, 0⟩
  else (m.searchGrids tie 17 m.leadingExponent).stripZeros 20

end Scaffold
