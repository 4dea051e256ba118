import Scaffold.Number.Shortest

namespace Scaffold

/-- How numbers are written. -/
structure NumberLayout where
  /-- The exponents of the leading digit that are written in positional notation; all, if absent. -/
  positional : Option (Int × Int)
  /-- Whether a whole number in positional notation ends in `.0`. -/
  wholeHasFraction : Bool
  tie : Tie

namespace NumberLayout

/-- Numbers in JSON: positional from `10^-5` to below `10^16`, always with a fraction, and with a
signed exponent beyond. -/
def json : NumberLayout := ⟨some (-5, 15), true, .toEven⟩

/-- Numbers in source text and messages: always positional, and whole numbers without a fraction. -/
def plain : NumberLayout := ⟨none, false, .up⟩

/-- The digits in positional notation, where `point` digits stand before the point. -/
def setPositional (layout : NumberLayout) (ds : List Char) (point : Int) : List Char :=
  let whole := if layout.wholeHasFraction then ['.', '0'] else []
  if point ≤ 0 then '0' :: '.' :: (List.replicate (-point).toNat '0' ++ ds)
  else
    let n := point.toNat
    if ds.length ≤ n then ds ++ List.replicate (n - ds.length) '0' ++ whole
    else ds.take n ++ '.' :: ds.drop n

/-- The digits with an exponent: one digit before the point. -/
def setScientific (ds : List Char) (exponent : Int) : List Char :=
  let mark := if exponent < 0 then ['e', '-'] else ['e', '+']
  let fraction := if ds.length ≤ 1 then [] else '.' :: ds.drop 1
  ds.take 1 ++ fraction ++ mark ++ Nat.toDigits 10 exponent.natAbs

/-- The text of a magnitude. -/
def setMagnitude (layout : NumberLayout) (m : Magnitude) : List Char :=
  let d := m.shortest layout.tie
  let ds := Nat.toDigits 10 d.digits
  let leading := d.exponent + ds.length - 1
  if d.digits = 0 then layout.setPositional ['0'] 1
  else match layout.positional with
    | some (least, greatest) =>
      if least ≤ leading ∧ leading ≤ greatest then layout.setPositional ds (leading + 1)
      else setScientific ds leading
    | none => layout.setPositional ds (leading + 1)

/-- The text of a number. -/
def set (layout : NumberLayout) : Binary64 → String
  | .nan => "NaN"
  | .infinite negative => if negative then "-inf" else "inf"
  | .finite negative m =>
    String.ofList ((if negative then ['-'] else []) ++ layout.setMagnitude m)

end NumberLayout

/-- A number as source text and messages show it. -/
def Binary64.text (x : Binary64) : String := NumberLayout.plain.set x

end Scaffold
