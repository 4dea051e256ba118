import Scaffold.Json.Problem
import Scaffold.Number.Reading

/-!
The pieces of a JSON text: blanks, words, strings and numbers. A reader takes the characters from
where it starts and answers what it read with the characters left over.
-/

namespace Scaffold.Json

/-- The characters still to be read. -/
abbrev Input := List Char

/-- Whether a character may stand between the pieces of a text. -/
def isSpace (c : Char) : Bool := c = ' ' || c = '\n' || c = '\t' || c = '\r'

/-- The input from the next piece on. -/
def skipSpace (cs : Input) : Input := cs.dropWhile isSpace

/-- Reads the rest of a word such as `true`. -/
def readWord : List Char → Input → Except Problem Input
  | [], cs => .ok cs
  | _ :: _, [] => .error .endOfValue
  | w :: ws, c :: cs => if c = w then readWord ws cs else .error .noWord

/-- The number that four hexadecimal digits stand for. -/
def hexUnit? (a b c d : Char) : Option Nat := do
  return (((← hexValue? a) * 16 + (← hexValue? b)) * 16 + (← hexValue? c)) * 16 + (← hexValue? d)

-- The sum of no numbers is the numeral zero, also in modules that see the zeros of algebra.
attribute [local instance (high)] Zero.ofOfNat0

/-- The problem of an escape with fewer than four characters left for its digits. Where four bytes
are left they are no digits, and where fewer are left the string has no end. -/
def hexProblem (short : Input) : Problem :=
  if 4 ≤ (short.map Char.utf8Size).sum then .invalidEscape else .endOfString

/-- Whether a code unit is the first half of a surrogate pair. -/
def isHighSurrogate (n : Nat) : Bool := 0xd800 ≤ n && n ≤ 0xdbff

/-- Whether a code unit is the second half of a surrogate pair. -/
def isLowSurrogate (n : Nat) : Bool := 0xdc00 ≤ n && n ≤ 0xdfff

/-- The character of a surrogate pair. -/
def pairChar (high low : Nat) : Char :=
  Char.ofNat ((high - 0xd800) * 0x400 + (low - 0xdc00) + 0x10000)

/-- The problem of input behind the first half of a surrogate pair that is no escape of four
digits. -/
def pairProblem : Input → Problem
  | [] | ['\\'] => .endOfString
  | '\\' :: 'u' :: short => hexProblem short
  | _ => .endOfSurrogate

/-- The character of an escape by a single letter or mark. -/
def escapedChar? (c : Char) : Option Char :=
  match c with
  | '"' => some '"'
  | '\\' => some '\\'
  | '/' => some '/'
  | 'b' => some '\x08'
  | 'f' => some '\x0c'
  | 'n' => some '\n'
  | 'r' => some '\r'
  | 't' => some '\t'
  | _ => none

/-- Puts a character in front of those that were read. -/
def consChar (c : Char) :
    Except Problem (List Char × Input) → Except Problem (List Char × Input)
  | .ok (cs, rest) => .ok (c :: cs, rest)
  | .error problem => .error problem

/-- Reads the characters of a string up to its closing quote, which it takes too. -/
def readChars : Input → Except Problem (List Char × Input)
  | [] => .error .endOfString
  | '"' :: rest => .ok ([], rest)
  | '\\' :: 'u' :: a :: b :: c :: d :: rest =>
    match hexUnit? a b c d with
    | none => .error .invalidEscape
    | some n =>
      if isLowSurrogate n then .error .loneSurrogate
      else if isHighSurrogate n then
        match rest with
        | '\\' :: 'u' :: a :: b :: c :: d :: rest =>
          match hexUnit? a b c d with
          | none => .error .invalidEscape
          | some low =>
            if isLowSurrogate low then consChar (pairChar n low) (readChars rest)
            else .error .loneSurrogate
        | _ => .error (pairProblem rest)
      else consChar (Char.ofNat n) (readChars rest)
  | '\\' :: 'u' :: short => .error (hexProblem short)
  | ['\\'] => .error .endOfString
  | '\\' :: c :: rest =>
    match escapedChar? c with
    | some c => consChar c (readChars rest)
    | none => .error .invalidEscape
  | c :: rest =>
    if c.toNat < 0x20 then .error .controlCharacter else consChar c (readChars rest)

/-- Reads a string after its opening quote. -/
def readString (cs : Input) : Except Problem (String × Input) := do
  let (s, rest) ← readChars cs
  return (String.ofList s, rest)

/-- Takes digits into a significand as long as it stays within 64 bits, and answers it with the
number of digits taken. -/
def absorb : (significand taken : Nat) → List Char → Nat × Nat
  | n, k, [] => (n, k)
  | n, k, d :: ds =>
    let next := 10 * n + (d.toNat - 48)
    if next < 2 ^ 64 then absorb next (k + 1) ds else (n, k)

/-- The power of ten with an exponent that the format can hold. -/
def tenTo (k : Nat) : Magnitude :=
  match Binary64.ofDecimal false 1 k with
  | .finite _ m => m
  | _ => .zero

/-- The magnitude times a power of ten, rounded once for each factor that the format can hold:
`none` if it grows out of range. -/
def scaleByTen : (fuel : Nat) → Magnitude → Int → Option Magnitude
  | 0, m, _ => some m
  | fuel + 1, m, e =>
    if e.natAbs ≤ 308 then
      match if 0 ≤ e then Binary64.mul false m (tenTo e.natAbs)
        else Binary64.div false m (tenTo e.natAbs) with
      | .finite _ r => some r
      | _ => none
    else if m.significand = 0 then some m
    else if 0 ≤ e then none
    else match Binary64.div false m (tenTo 308) with
      | .finite _ r => scaleByTen fuel r (e + 308)
      | _ => none

/-- The floating point number of a significand and an exponent. -/
def fractionOf (negative : Bool) (significand : Nat) (exponent : Int) : Except Problem JsonNumber :=
  match Binary64.ofRatio false significand 1 with
  | .finite _ m =>
    match scaleByTen 4 m exponent with
    | some r => .ok (.fraction negative r)
    | none => .error .numberTooLarge
  | _ => .error .numberTooLarge

/-- The whole number of a significand; zero with a sign and numbers beyond 64 bits are floating
point numbers. -/
def wholeOf (negative : Bool) (significand : Nat) : Except Problem JsonNumber :=
  if negative then
    if h : 0 < significand ∧ significand ≤ 2 ^ 63 then .ok (.negative significand h)
    else fractionOf true significand 0
  else .ok (.natural (UInt64.ofNat significand))

/-- Fails because a digit is missing. -/
def noDigit {α : Type} : Input → Except Problem α
  | [] => .error .endOfValue
  | _ => .error .invalidNumber

/-- Reads the exponent of a number after its letter. -/
def readExponent (cs : Input) : Except Problem (Int × Input) :=
  let (negative, rest) := match cs with
    | '-' :: rest => (true, rest)
    | '+' :: rest => (false, rest)
    | _ => (false, cs)
  let ds := rest.takeWhile Char.isDigit
  if ds.isEmpty then noDigit rest
  else
    let e : Int := digitsValue ds
    .ok (if negative then -e else e, rest.dropWhile Char.isDigit)

/-- Reads the exponent of a number if one follows. -/
def readExponent? (cs : Input) : Except Problem (Option Int × Input) :=
  match cs with
  | c :: rest =>
    if c = 'e' ∨ c = 'E' then do
      let (e, rest) ← readExponent rest
      return (some e, rest)
    else .ok (none, cs)
  | [] => .ok (none, cs)

/-- Reads a number after its sign. Digits that no longer fit the significand only move the point. -/
def readNumber (negative : Bool) (cs : Input) : Except Problem (JsonNumber × Input) := do
  let whole := cs.takeWhile Char.isDigit
  let rest := cs.dropWhile Char.isDigit
  if whole.isEmpty then noDigit rest
  else if whole.head? = some '0' ∧ 1 < whole.length then throw .invalidNumber
  else
    let (n, taken) := absorb 0 0 whole
    let moved : Int := (whole.length - taken : Nat)
    match rest with
    | '.' :: after =>
      let fraction := after.takeWhile Char.isDigit
      let rest := after.dropWhile Char.isDigit
      if fraction.isEmpty then noDigit rest
      else
        let (n, taken) := absorb n 0 fraction
        let (e, rest) ← readExponent? rest
        let r ← fractionOf negative n (moved - taken + e.getD 0)
        return (r, rest)
    | _ =>
      let (e, rest) ← readExponent? rest
      match e with
      | some e => return (← fractionOf negative n (moved + e), rest)
      | none =>
        if moved = 0 then return (← wholeOf negative n, rest)
        else return (← fractionOf negative n moved, rest)

end Scaffold.Json
