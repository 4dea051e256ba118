import Scaffold.Json.Reader

/-!
Values that nobody asked for. They are read past without being built: numbers may be out of range,
surrogates may stand alone, and there is no limit on nesting.
-/

namespace Scaffold.Json

/-- Reads past digits, of which there must be one. -/
def skipDigits (cs : Input) : Except Problem Input :=
  if (cs.takeWhile Char.isDigit).isEmpty then .error .invalidNumber
  else .ok (cs.dropWhile Char.isDigit)

/-- Reads past an exponent if one follows. -/
def skipExponent (cs : Input) : Except Problem Input :=
  match cs with
  | c :: rest =>
    if c = 'e' ∨ c = 'E' then
      match rest with
      | '+' :: rest => skipDigits rest
      | '-' :: rest => skipDigits rest
      | _ => skipDigits rest
    else .ok cs
  | [] => .ok cs

/-- Reads past a number after its sign. -/
def skipNumber (cs : Input) : Except Problem Input := do
  let rest ← skipDigits cs
  if cs.head? = some '0' ∧ 1 < (cs.takeWhile Char.isDigit).length then throw .invalidNumber
  else match rest with
    | '.' :: rest => do
      let rest ← skipDigits rest
      skipExponent rest
    | _ => skipExponent rest

/-- Reads past a string after its opening quote. -/
def skipString : Input → Except Problem Input
  | [] => .error .endOfString
  | '"' :: rest => .ok rest
  | '\\' :: 'u' :: a :: b :: c :: d :: rest =>
    if (hexUnit? a b c d).isSome then skipString rest else .error .invalidEscape
  | '\\' :: 'u' :: short => .error (hexProblem short)
  | ['\\'] => .error .endOfString
  | '\\' :: c :: rest =>
    if (escapedChar? c).isSome then skipString rest else .error .invalidEscape
  | c :: rest => if c.toNat < 0x20 then .error .controlCharacter else skipString rest

/-- Reads past a value that is neither a list nor an object. -/
def skipScalar (cs : Input) : Except Problem Input :=
  match cs with
  | [] => .error .endOfValue
  | c :: rest =>
    if c = 'n' then readWord ['u', 'l', 'l'] rest
    else if c = 't' then readWord ['r', 'u', 'e'] rest
    else if c = 'f' then readWord ['a', 'l', 's', 'e'] rest
    else if c = '"' then skipString rest
    else if c = '-' then skipNumber rest
    else if c.isDigit then skipNumber cs
    else .error .noValue

mutual

/-- Reads past a value. -/
def skipValue : (fuel : Nat) → Input → Except Problem Input
  | 0, _ => .error .endOfValue
  | fuel + 1, cs =>
    match skipSpace cs with
    | '[' :: rest => skipItems fuel true rest
    | '\x7b' :: rest => skipMembers fuel true rest
    | cs => skipScalar cs

/-- Reads past the items of a list and its closing bracket. -/
def skipItems : (fuel : Nat) → (first : Bool) → Input → Except Problem Input
  | 0, _, _ => .error .endOfValue
  | fuel + 1, first, cs =>
    match skipSpace cs with
    | [] => .error .endOfList
    | ']' :: rest => .ok rest
    | c :: rest =>
      if first then do
        let rest ← skipValue fuel (c :: rest)
        skipItems fuel false rest
      else if c = ',' then do
        let rest ← skipValue fuel rest
        skipItems fuel false rest
      else .error .noListEnd

/-- Reads past the members of an object and its closing brace. -/
def skipMembers : (fuel : Nat) → (first : Bool) → Input → Except Problem Input
  | 0, _, _ => .error .endOfValue
  | fuel + 1, first, cs =>
    match skipSpace cs with
    | [] => .error .endOfObject
    | '\x7d' :: rest => .ok rest
    | c :: rest =>
      if first then skipMember fuel (c :: rest)
      else if c = ',' then skipMember fuel rest
      else .error .noObjectEnd

/-- Reads past one member of an object and those after it. -/
def skipMember : (fuel : Nat) → Input → Except Problem Input
  | 0, _ => .error .endOfValue
  | fuel + 1, cs =>
    match skipSpace cs with
    | [] => .error .endOfObject
    | '"' :: rest => do
      let rest ← skipString rest
      let rest ← readColon rest
      let rest ← skipValue fuel rest
      skipMembers fuel false rest
    | _ => .error .keyNotString

end

end Scaffold.Json
