import Scaffold.Number.Layout

namespace Scaffold

/-- A number of a JSON text: a whole number of 64 bits, a negative one, or a finite floating point
number. The three never stand for each other. -/
inductive JsonNumber where
  | natural (n : UInt64)
  /-- The number `-n`. -/
  | negative (n : Nat) (bounds : 0 < n ∧ n ≤ 2 ^ 63)
  | fraction (negative : Bool) (magnitude : Magnitude)
deriving DecidableEq

/-- A JSON value. Objects keep the order of their members. -/
inductive Json where
  | null
  | bool (value : Bool)
  | number (value : JsonNumber)
  | string (value : String)
  | array (items : List Json)
  | object (members : List (String × Json))

namespace JsonNumber

/-- The number nearest to it in floating point. -/
def toBinary64 : JsonNumber → Binary64
  | natural n => .ofRatio false n.toNat 1
  | negative n _ => .ofRatio true n 1
  | fraction minus m => .finite minus m

/-- Whether the number is a whole number by its kind, not by its value. -/
def isInteger : JsonNumber → Bool
  | fraction .. => false
  | _ => true

/-- The number as JSON text. -/
def text : JsonNumber → String
  | natural n => String.ofList (Nat.toDigits 10 n.toNat)
  | negative n _ => String.ofList ('-' :: Nat.toDigits 10 n)
  | fraction minus m => NumberLayout.json.set (.finite minus m)

end JsonNumber

namespace Json

instance : Inhabited Json := ⟨null⟩

/-- The natural number `n`, which must be below `2^64`. -/
def ofNat (n : Nat) : Json := number (.natural (UInt64.ofNat n))

end Json

end Scaffold
