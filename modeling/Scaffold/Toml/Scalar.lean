import Scaffold.Toml.Node
import Scaffold.Toml.Text

namespace Scaffold.Toml

/-- The digits of a number without the underscores between them: every underscore stands between two
digits, and there is a digit at least. -/
def plainDigits? (isDigit : Char → Bool) : List Char → Option (List Char)
  | [] => none
  | [c] => if isDigit c then some [c] else none
  | c :: '_' :: rest => if isDigit c then (plainDigits? isDigit rest).map (c :: ·) else none
  | c :: rest => if isDigit c then (plainDigits? isDigit rest).map (c :: ·) else none

/-- The value of digits to a base. -/
def valueIn (base : Nat) (ds : List Char) : Nat :=
  ds.foldl (fun n c => base * n + (hexValue? c).getD 0) 0

/-- A whole number written to a base other than ten. -/
def basedInteger? (base : Nat) (cs : List Char) : Option Int := do
  let isDigit (c : Char) := match hexValue? c with
    | some d => decide (d < base)
    | none => false
  return valueIn base (← plainDigits? isDigit cs)

/-- The digits of a decimal number: no zero in front of others. -/
def decimalDigits? (cs : List Char) : Option (List Char) := do
  let ds ← plainDigits? Char.isDigit cs
  match ds with
  | '0' :: _ :: _ => none
  | _ => return ds

/-- A whole number, if it fits 128 bits with sign or without. -/
def integer? (cs : List Char) : Option Int := do
  let n ← match cs with
    | '0' :: 'x' :: rest => basedInteger? 16 rest
    | '0' :: 'o' :: rest => basedInteger? 8 rest
    | '0' :: 'b' :: rest => basedInteger? 2 rest
    | '-' :: rest => (decimalDigits? rest).map fun ds => -(digitsValue ds : Int)
    | '+' :: rest => (decimalDigits? rest).map fun ds => (digitsValue ds : Int)
    | _ => (decimalDigits? cs).map fun ds => (digitsValue ds : Int)
  if -(2 ^ 127) ≤ n ∧ n < 2 ^ 128 then return n else none

/-- The exponent of a number, after its letter. -/
def exponent? (cs : List Char) : Option Int := do
  let (negative, digits) := takeSign cs
  let ds ← plainDigits? Char.isDigit digits
  return if negative then -(digitsValue ds : Int) else digitsValue ds

/-- The exponent that a text is or starts with, behind a significand. -/
def exponentPart? : List Char → Option Int
  | [] => some 0
  | c :: rest => if c = 'e' || c = 'E' then exponent? rest else none

/-- Whether a character ends the digits of a number. -/
def endsDigits (c : Char) : Bool := c = '.' || c = 'e' || c = 'E'

/-- A floating point number without its sign. It must be within the range of the format. -/
def unsignedFloat? (negative : Bool) (cs : List Char) : Option Binary64 := do
  if cs = ['i', 'n', 'f'] then return .infinite negative
  else if cs = ['n', 'a', 'n'] then return .nan
  else
    let whole ← decimalDigits? (cs.takeWhile fun c => !endsDigits c)
    let (fraction, tail) ← match cs.dropWhile fun c => !endsDigits c with
      | '.' :: rest => do
        let fraction ← plainDigits? Char.isDigit (rest.takeWhile fun c => !endsDigits c)
        pure (fraction, rest.dropWhile fun c => !endsDigits c)
      | rest => if rest.isEmpty then none else pure ([], rest)
    let e ← exponentPart? tail
    match Binary64.ofDecimal negative (digitsValue (whole ++ fraction)) (e - fraction.length) with
    | .infinite _ => none
    | x => return x

/-- A floating point number. -/
def float? (cs : List Char) : Option Binary64 :=
  let (negative, rest) := takeSign cs
  unsignedFloat? negative rest

/-- Reads a number of exactly `count` digits. -/
def digits? (count : Nat) (cs : Input) : Option (Nat × Input) :=
  let ds := cs.take count
  if ds.length = count ∧ ds.all Char.isDigit then some (digitsValue ds, cs.drop count) else none

/-- Reads a character that must stand here. -/
def readMark? (mark : Char) : Input → Option Input
  | [] => none
  | c :: rest => if c = mark then some rest else none

/-- The number of days in a month. -/
def daysIn (year month : Nat) : Nat :=
  if month = 2 then
    if year % 4 = 0 ∧ (year % 100 ≠ 0 ∨ year % 400 = 0) then 29 else 28
  else if month = 4 ∨ month = 6 ∨ month = 9 ∨ month = 11 then 30
  else 31

/-- Reads past a date. -/
def skipDate? (cs : Input) : Option Input := do
  let (year, cs) ← digits? 4 cs
  let (month, cs) ← digits? 2 (← readMark? '-' cs)
  let (day, cs) ← digits? 2 (← readMark? '-' cs)
  if 1 ≤ month ∧ month ≤ 12 ∧ 1 ≤ day ∧ day ≤ daysIn year month then return cs else none

/-- Reads past the fraction of a second, if one follows. -/
def skipFraction? : Input → Option Input
  | '.' :: rest => match rest with
    | [] => none
    | c :: _ => if c.isDigit then some (rest.dropWhile Char.isDigit) else none
  | cs => some cs

/-- Reads past a time; it may end at the minute. A minute can have a leap second. -/
def skipTime? (cs : Input) : Option Input := do
  let (hour, cs) ← digits? 2 cs
  let (minute, cs) ← digits? 2 (← readMark? ':' cs)
  if 24 ≤ hour ∨ 60 ≤ minute then none
  else match cs with
    | ':' :: cs => do
      let (second, cs) ← digits? 2 cs
      if 60 < second then none else skipFraction? cs
    | cs => some cs

/-- Reads past the distance from universal time, if one follows. -/
def skipOffset? (cs : Input) : Option Input :=
  match cs with
  | [] => some []
  | c :: rest =>
    if c = 'Z' ∨ c = 'z' then some rest
    else if c = '+' ∨ c = '-' then do
      let (hour, rest) ← digits? 2 rest
      let (minute, rest) ← digits? 2 (← readMark? ':' rest)
      if 24 ≤ hour ∨ 60 ≤ minute then none else some rest
    else some cs

/-- Whether the characters are a date. -/
def isDate (cs : List Char) : Bool := skipDate? cs == some []

/-- Whether the characters are a date, a time, or a date with a time. -/
def isMoment (cs : List Char) : Bool :=
  match skipDate? cs with
  | none => skipTime? cs == some []
  | some [] => true
  | some (c :: rest) =>
    (c = 'T' || c = 't' || c = ' ') && (skipTime? rest).bind skipOffset? == some []

/-- The value of a word. -/
def leafOf? (cs : List Char) : Option Leaf :=
  if cs = "true".toList then some (.boolean true)
  else if cs = "false".toList then some (.boolean false)
  else match integer? cs with
    | some n => some (.integer n)
    | none =>
      match float? cs with
      | some x => some (.float x)
      | none => if isMoment cs then some (.moment (String.ofList cs)) else none

/-- Whether a character may stand in a word. -/
def isWordChar (c : Char) : Bool :=
  c.isAlphanum || c = '_' || c = '+' || c = '-' || c = '.' || c = ':'

/-- Reads a word and answers its value. A date and the time behind it, one space between them, are
one word. -/
def readLeaf? (cs : Input) : Option (Leaf × Input) :=
  let word := cs.takeWhile isWordChar
  let rest := cs.dropWhile isWordChar
  match rest with
  | ' ' :: c :: after =>
    if isDate word && c.isDigit then
      let time := (c :: after).takeWhile isWordChar
      (leafOf? (word ++ ' ' :: time)).map fun v => (v, (c :: after).dropWhile isWordChar)
    else (leafOf? word).map fun v => (v, rest)
  | _ => (leafOf? word).map fun v => (v, rest)

end Scaffold.Toml
