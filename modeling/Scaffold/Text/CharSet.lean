/-!
Sets of characters given by tables. A set is written as the increasing list of the code points
where membership changes, so a table of ranges needs one number for each end of a range and
membership is the parity of the number of changes passed.
-/

namespace Scaffold.Text

/-- A set of characters: the code points where membership changes, in increasing order. -/
structure CharSet where
  bounds : List Nat

namespace CharSet

/-- Whether code point `n` lies in the set with these changes of membership: it lies outside below
the first change, and each change that is passed turns the answer over. -/
def covers : List Nat → Nat → Bool
  | [], _ => false
  | b :: rest, n => if n < b then false else !covers rest n

/-- Nothing below the first change lies in the set. -/
theorem covers_of_lt {b n : Nat} (h : n < b) (rest : List Nat) : covers (b :: rest) n = false := by
  simp only [covers, h, if_true]

/-- Each change that is passed turns the answer over. -/
theorem covers_of_le {b n : Nat} (h : b ≤ n) (rest : List Nat) :
    covers (b :: rest) n = !covers rest n := by
  simp only [covers, Nat.not_lt.mpr h, if_false]

/-- Membership of a character. -/
def contains (s : CharSet) (c : Char) : Bool := covers s.bounds c.toNat

end CharSet

end Scaffold.Text
