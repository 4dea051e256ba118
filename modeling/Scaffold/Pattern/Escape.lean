import Scaffold.Number.Reading
import Scaffold.Pattern.Basic
import Scaffold.Pattern.Problem
import Scaffold.Text.Blank
import Scaffold.Text.Split

namespace Scaffold.Pattern

/-- The input after blanks and comments; a comment goes from a hash to the end of its line. -/
def skipComments (inComment : Bool) : Input → Input
  | [] => []
  | c :: rest =>
    if inComment then skipComments (c ≠ '\n') rest
    else if Text.isBlank c then skipComments false rest
    else if c = '#' then skipComments true rest
    else c :: rest

/-- The input from the next piece on. -/
def skipSpace (ignoreSpace : Bool) (cs : Input) : Input :=
  if ignoreSpace then skipComments false cs else cs

/-- The literal of a code point. -/
def literalOf (isByte : Bool) (n : Nat) : Except Problem Atom :=
  if n.isValidChar then .ok (.literal ⟨Char.ofNat n, isByte⟩) else .error .hexScalar

/-- Reads a number of `count` hexadecimal digits behind those that make up `before`. -/
def readHexDigits (ignoreSpace : Bool) :
    (count before : Nat) → Input → Except Problem (Nat × Input)
  | 0, n, cs => .ok (n, cs)
  | _ + 1, _, [] => .error .escapeEnd
  | count + 1, n, c :: rest =>
    match hexValue? c with
    | some d => readHexDigits ignoreSpace count (16 * n + d) (skipSpace ignoreSpace rest)
    | none => .error .hexDigit

/-- Reads hexadecimal digits up to a closing brace, behind those that make up `before`, if any. -/
def readHexBraces (ignoreSpace : Bool) :
    (fuel : Nat) → (before : Option Nat) → Input → Except Problem (Nat × Input)
  | 0, _, _ => .error .escapeEnd
  | fuel + 1, before, cs =>
    match skipSpace ignoreSpace cs with
    | [] => .error .escapeEnd
    | c :: rest =>
      if c = '\x7d' then
        match before with
        | none => .error .hexEmpty
        | some n => .ok (n, skipSpace ignoreSpace rest)
      else match hexValue? c with
        | some d => readHexBraces ignoreSpace fuel (some (16 * before.getD 0 + d)) rest
        | none => .error .hexDigit

/-- Reads a character given by its code point: as many digits as its letter says, or any number of
them between braces. -/
def readHex (ignoreSpace : Bool) (count : Nat) (cs : Input) : Except Problem (Atom × Input) :=
  match skipSpace ignoreSpace cs with
  | [] => .error .escapeEnd
  | '\x7b' :: rest => do
    let (n, rest) ← readHexBraces ignoreSpace (rest.length + 1) none rest
    return (← literalOf false n, rest)
  | cs => do
    let (n, rest) ← readHexDigits ignoreSpace count 0 cs
    return (← literalOf (count = 2) n, rest)

/-- Reads characters up to a closing brace. -/
def readBraced (ignoreSpace : Bool) : (fuel : Nat) → Input → Except Problem (List Char × Input)
  | 0, _ => .error .escapeEnd
  | fuel + 1, cs =>
    match skipSpace ignoreSpace cs with
    | [] => .error .escapeEnd
    | c :: rest =>
      if c = '\x7d' then .ok ([], rest)
      else do
        let (cs, rest) ← readBraced ignoreSpace fuel rest
        return (c :: cs, rest)

/-- The property that the text between braces names: a name, or a name and a value. -/
def propertyOf (cs : List Char) : Property :=
  match Text.splitAt? ['!', '='] cs with
  | some (name, value) => .valued (String.ofList name) (String.ofList value)
  | none =>
    match Text.splitAt? [':'] cs with
    | some (name, value) => .valued (String.ofList name) (String.ofList value)
    | none =>
      match Text.splitAt? ['='] cs with
      | some (name, value) => .valued (String.ofList name) (String.ofList value)
      | none => .named (String.ofList cs)

/-- Reads a property: a single letter, or a text between braces. -/
def readProperty (ignoreSpace negated : Bool) (cs : Input) : Except Problem (Atom × Input) :=
  match skipSpace ignoreSpace cs with
  | [] => .error .escapeEnd
  | c :: rest =>
    if c = '\x7b' then do
      let (name, rest) ← readBraced ignoreSpace (rest.length + 1) rest
      return (.property negated (propertyOf name), rest)
    else if c = '\\' then .error .propertyLetter
    else .ok (.property negated (.named (String.ofList [c])), skipSpace ignoreSpace rest)

/-- Whether a character may stand in the name of a word boundary. -/
def isBoundaryChar (c : Char) : Bool := c.isAlpha || c = '-'

/-- Reads the name of a word boundary, as far as it goes. -/
def readBoundaryName (ignoreSpace : Bool) : (fuel : Nat) → Input → List Char × Input
  | 0, cs => ([], cs)
  | _ + 1, [] => ([], [])
  | fuel + 1, c :: rest =>
    if isBoundaryChar c then
      let (name, rest) := readBoundaryName ignoreSpace fuel (skipSpace ignoreSpace rest)
      (c :: name, rest)
    else ([], c :: rest)

/-- Reads what follows `\b`: a kind of word boundary between braces, unless the brace cannot be that
and so begins a count. -/
def readBoundary (ignoreSpace : Bool) (cs : Input) : Except Problem (Atom × Input) :=
  match cs with
  | '\x7b' :: rest =>
    match skipSpace ignoreSpace rest with
    | [] => .error .boundaryEnd
    | c :: inside =>
      if !isBoundaryChar c then .ok (.assertion .wordBoundary, cs)
      else
        let (name, after) := readBoundaryName ignoreSpace (inside.length + 1) (c :: inside)
        match after with
        | '\x7d' :: rest =>
          match String.ofList name with
          | "start" => .ok (.assertion .wordStart, rest)
          | "end" => .ok (.assertion .wordEnd, rest)
          | "start-half" => .ok (.assertion .wordStartHalf, rest)
          | "end-half" => .ok (.assertion .wordEndHalf, rest)
          | _ => .error .boundaryUnknown
        | _ => .error .boundaryUnclosed
  | _ => .ok (.assertion .wordBoundary, cs)

/-- Whether a backslash makes a plain character of this one: any ASCII character but the letters,
the digits and the angle brackets. -/
def isEscapable (c : Char) : Bool := c.toNat < 0x80 && !c.isAlphanum && c ≠ '<' && c ≠ '>'

/-- Reads what stands behind a backslash. -/
def readEscape (ignoreSpace : Bool) : Input → Except Problem (Atom × Input)
  | [] => .error .escapeEnd
  | c :: rest =>
    let plain (d : Char) : Except Problem (Atom × Input) := .ok (.literal ⟨d, false⟩, rest)
    let place (a : Assertion) : Except Problem (Atom × Input) := .ok (.assertion a, rest)
    if c.isDigit then .error .backreference
    else if isEscapable c then plain c
    else match c with
      | 'x' => readHex ignoreSpace 2 rest
      | 'u' => readHex ignoreSpace 4 rest
      | 'U' => readHex ignoreSpace 8 rest
      | 'p' => readProperty ignoreSpace false rest
      | 'P' => readProperty ignoreSpace true rest
      | 'd' => .ok (.shorthand false .digit, rest)
      | 's' => .ok (.shorthand false .space, rest)
      | 'w' => .ok (.shorthand false .word, rest)
      | 'D' => .ok (.shorthand true .digit, rest)
      | 'S' => .ok (.shorthand true .space, rest)
      | 'W' => .ok (.shorthand true .word, rest)
      | 'a' => plain '\x07'
      | 'f' => plain '\x0c'
      | 't' => plain '\t'
      | 'n' => plain '\n'
      | 'r' => plain '\r'
      | 'v' => plain '\x0b'
      | 'A' => place .textStart
      | 'z' => place .textEnd
      | 'b' => readBoundary ignoreSpace rest
      | 'B' => place .noWordBoundary
      | '<' => place .wordStart
      | '>' => place .wordEnd
      | _ => .error .escapeUnknown

end Scaffold.Pattern
