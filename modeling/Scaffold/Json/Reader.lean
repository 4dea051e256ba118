import Scaffold.Json.Token
import Scaffold.Keyed

namespace Scaffold.Json

/-- How deep values may nest. -/
def depthLimit : Nat := 127

/-- Goes one level deeper: the levels that are left inside. -/
def enter : Nat → Except Problem Nat
  | 0 => .error .tooDeep
  | depth + 1 => .ok depth

/-- Finds the next item of a list whose opening bracket, or last item, has been read: whether there
is one, and the input at the item or after the closing bracket. -/
def nextItem (first : Bool) (cs : Input) : Except Problem (Bool × Input) :=
  match skipSpace cs with
  | [] => .error .endOfList
  | ']' :: rest => .ok (false, ']' :: rest)
  | c :: rest =>
    if first then .ok (true, c :: rest)
    else if c = ',' then
      match skipSpace rest with
      | [] => .error .endOfValue
      | ']' :: _ => .error .trailingComma
      | next => .ok (true, next)
    else .error .noListEnd

/-- Finds the next key of an object whose opening brace, or last member, has been read: whether
there is one, and the input after its opening quote or at the closing brace. -/
def nextKey (first : Bool) (cs : Input) : Except Problem (Bool × Input) :=
  match skipSpace cs with
  | [] => .error .endOfObject
  | '\x7d' :: rest => .ok (false, '\x7d' :: rest)
  | c :: rest =>
    if first then
      if c = '"' then .ok (true, rest) else .error .keyNotString
    else if c = ',' then
      match skipSpace rest with
      | [] => .error .endOfValue
      | '"' :: next => .ok (true, next)
      | '\x7d' :: _ => .error .trailingComma
      | _ => .error .keyNotString
    else .error .noObjectEnd

/-- Reads the colon after a key. -/
def readColon (cs : Input) : Except Problem Input :=
  match skipSpace cs with
  | [] => .error .endOfObject
  | c :: rest => if c = ':' then .ok rest else .error .noColon

/-- Reads the closing bracket of a list. -/
def closeList (cs : Input) : Except Problem Input :=
  match skipSpace cs with
  | [] => .error .endOfList
  | ']' :: rest => .ok rest
  | ',' :: rest =>
    match skipSpace rest with
    | ']' :: _ => .error .trailingComma
    | _ => .error .trailingCharacters
  | _ => .error .trailingCharacters

/-- Reads the closing brace of an object. -/
def closeObject (cs : Input) : Except Problem Input :=
  match skipSpace cs with
  | [] => .error .endOfObject
  | '\x7d' :: rest => .ok rest
  | ',' :: _ => .error .trailingComma
  | _ => .error .trailingCharacters

/-- Reads a value that is neither a list nor an object. -/
def readScalar (cs : Input) : Except Problem (Json × Input) :=
  match cs with
  | [] => .error .endOfValue
  | c :: rest =>
    if c = 'n' then do
      let rest ← readWord ['u', 'l', 'l'] rest
      return (null, rest)
    else if c = 't' then do
      let rest ← readWord ['r', 'u', 'e'] rest
      return (bool true, rest)
    else if c = 'f' then do
      let rest ← readWord ['a', 'l', 's', 'e'] rest
      return (bool false, rest)
    else if c = '"' then do
      let (s, rest) ← readString rest
      return (string s, rest)
    else if c = '-' then do
      let (n, rest) ← readNumber true rest
      return (number n, rest)
    else if c.isDigit then do
      let (n, rest) ← readNumber false cs
      return (number n, rest)
    else throw .noValue

mutual

/-- Reads a value. `fuel` bounds the steps, `depth` is how many levels deeper the value may go. -/
def readValue : (fuel depth : Nat) → Input → Except Problem (Json × Input)
  | 0, _, _ => .error .endOfValue
  | fuel + 1, depth, cs =>
    match skipSpace cs with
    | '[' :: rest => do
      let depth ← enter depth
      let (items, rest) ← readItems fuel depth true rest
      let rest ← closeList rest
      return (array items, rest)
    | '\x7b' :: rest => do
      let depth ← enter depth
      let (members, rest) ← readMembers fuel depth true [] rest
      let rest ← closeObject rest
      return (object members, rest)
    | cs => readScalar cs

/-- Reads the items of a list up to its closing bracket. -/
def readItems : (fuel depth : Nat) → (first : Bool) → Input → Except Problem (List Json × Input)
  | 0, _, _, _ => .error .endOfValue
  | fuel + 1, depth, first, cs => do
    let (more, rest) ← nextItem first cs
    if more then
      let (item, rest) ← readValue fuel depth rest
      let (items, rest) ← readItems fuel depth false rest
      return (item :: items, rest)
    else return ([], rest)

/-- Reads the members of an object up to its closing brace and puts them to those before. -/
def readMembers : (fuel depth : Nat) → (first : Bool) → List (String × Json) → Input →
    Except Problem (List (String × Json) × Input)
  | 0, _, _, _, _ => .error .endOfValue
  | fuel + 1, depth, first, before, cs => do
    let (more, rest) ← nextKey first cs
    if more then
      let (key, rest) ← readString rest
      let rest ← readColon rest
      let (value, rest) ← readValue fuel depth rest
      readMembers fuel depth false (Keyed.put key value before) rest
    else return (before, rest)

end

/-- As many steps as any reader can need for the input. -/
def stepLimit (cs : Input) : Nat := 3 * cs.length + 1

/-- Reads a whole text by a reader; nothing but blanks may follow what it reads. -/
def readText {α : Type} (read : (fuel depth : Nat) → Input → Except Problem (α × Input))
    (text : String) : Except Problem α := do
  let cs := text.toList
  let (value, rest) ← read (stepLimit cs) depthLimit cs
  if (skipSpace rest).isEmpty then return value else throw .trailingCharacters

/-- The value of a JSON text. -/
def parse (text : String) : Except Problem Json := readText readValue text

end Scaffold.Json
