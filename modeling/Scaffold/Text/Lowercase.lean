import Scaffold.Text.CharSet
import Scaffold.Text.Table.CaseIgnorable
import Scaffold.Text.Table.Cased
import Scaffold.Text.Table.LowercaseRuns

/-!
Full lowercase mapping. All letters map one by one, with two exceptions: the dotted capital I has a
small form of two characters, and a capital sigma has a small form of its own at the end of a word.
-/

namespace Scaffold.Text

namespace CaseRun

/-- Whether a code point is one of the capital letters of the run. -/
def covers (r : CaseRun) (n : Nat) : Bool :=
  r.first ≤ n && n ≤ r.last && (n - r.first) % r.step == 0

end CaseRun

/-- The small letter of a code point by the first run that covers it, and the code point itself
where none does. -/
def lowerCode : List CaseRun → Nat → Nat
  | [], n => n
  | r :: rest, n =>
    if n < r.first then n
    else if r.covers n then ((n : Int) + r.shift).toNat
    else lowerCode rest n

/-- The small form of a character that stands alone. -/
def lowerChar (c : Char) : List Char :=
  if c = '\u0130' then ['i', '\u0307'] else [Char.ofNat (lowerCode lowercaseRuns c.toNat)]

/-- Whether the first character that is not looked past has letter case. -/
def startsCased (cs : List Char) : Bool :=
  match cs.dropWhile caseIgnorable.contains with
  | [] => false
  | c :: _ => cased.contains c

/-- The small form of a text. `afterCased` says whether the last character before it that is not
looked past has letter case: a capital sigma ends a word if one stands before it and none after. -/
def lowerFrom (afterCased : Bool) : List Char → List Char
  | [] => []
  | c :: rest =>
    let small :=
      if c = 'Σ' then [if afterCased && !startsCased rest then 'ς' else 'σ'] else lowerChar c
    small ++ lowerFrom (if caseIgnorable.contains c then afterCased else cased.contains c) rest

/-- The text in small letters. -/
def lowercase (s : String) : String := String.ofList (lowerFrom false s.toList)

end Scaffold.Text
