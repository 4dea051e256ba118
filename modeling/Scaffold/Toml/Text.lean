import Scaffold.Number.Reading

/-!
The strings of a TOML document. A reader takes the characters from where it starts and answers what
it read with the characters left over, or nothing if the text is malformed.
-/

namespace Scaffold.Toml

/-- The characters still to be read. -/
abbrev Input := List Char

/-- Whether a character is a blank within a line. -/
def isBlank (c : Char) : Bool := c = ' ' || c = '\t'

/-- The input after the blanks it starts with. -/
def skipBlanks (cs : Input) : Input := cs.dropWhile isBlank

/-- Whether a character may stand in a comment or a string: no control character but the tab. -/
def isTextChar (c : Char) : Bool := c = '\t' || (0x20 ≤ c.toNat && c.toNat ≠ 0x7f)

/-- The character of a code point, if it has one. -/
def charOf? (n : Nat) : Option Char := if n.isValidChar then some (Char.ofNat n) else none

/-- The character whose code point the hexadecimal digits give. -/
def hexChar? (ds : List Char) : Option Char := do
  charOf? (← ds.foldlM (fun n d => do return 16 * n + (← hexValue? d)) 0)

/-- The character of an escape by a single letter or mark. -/
def escapedChar? (c : Char) : Option Char :=
  match c with
  | 'b' => some '\x08'
  | 't' => some '\t'
  | 'n' => some '\n'
  | 'f' => some '\x0c'
  | 'r' => some '\r'
  | 'e' => some '\x1b'
  | '"' => some '"'
  | '\\' => some '\\'
  | _ => none

/-- Puts a character in front of what was read. -/
def consChar (c : Char) : List Char × Input → List Char × Input
  | (cs, rest) => (c :: cs, rest)

/-- Reads a string on one line after its opening quote. -/
def readBasic? : Input → Option (List Char × Input)
  | [] => none
  | '"' :: rest => some ([], rest)
  | '\\' :: 'x' :: a :: b :: rest => do
    return consChar (← hexChar? [a, b]) (← readBasic? rest)
  | '\\' :: 'u' :: a :: b :: c :: d :: rest => do
    return consChar (← hexChar? [a, b, c, d]) (← readBasic? rest)
  | '\\' :: 'U' :: a :: b :: c :: d :: e :: f :: g :: h :: rest => do
    return consChar (← hexChar? [a, b, c, d, e, f, g, h]) (← readBasic? rest)
  | '\\' :: c :: rest => do return consChar (← escapedChar? c) (← readBasic? rest)
  | c :: rest => if isTextChar c then (readBasic? rest).map (consChar c) else none

/-- Reads a string without escapes on one line after its opening quote. -/
def readLiteral? : Input → Option (List Char × Input)
  | [] => none
  | c :: rest =>
    if c = '\'' then some ([], rest)
    else if isTextChar c then (readLiteral? rest).map (consChar c)
    else none

/-- The input after the line end it starts with, if it does. -/
def lineEnd? : Input → Option Input
  | '\n' :: rest => some rest
  | '\r' :: '\n' :: rest => some rest
  | _ => none

/-- The input after the first line end, if it starts with one. -/
def dropLineEnd (cs : Input) : Input := (lineEnd? cs).getD cs

/-- Ends a long string after its three closing quotes: up to two more quotes still belong to it. -/
def endLong (quote : Char) (cs : Input) : List Char × Input :=
  match cs with
  | a :: b :: rest =>
    if a = quote ∧ b = quote then ([quote, quote], rest)
    else if a = quote then ([quote], b :: rest)
    else ([], cs)
  | [a] => if a = quote then ([quote], []) else ([], cs)
  | [] => ([], [])

/-- Whether a backslash in front of the input takes the end of its line away. -/
def continues (cs : Input) : Bool := (lineEnd? (skipBlanks cs)).isSome

/-- Reads a string over several lines. A backslash at the end of a line takes the line end and the
blanks and line ends behind it away, which `trimming` says is going on; every other line end counts
as a line feed. -/
def readLongBasic? : (trimming : Bool) → Input → Option (List Char × Input)
  | _, [] => none
  | _, '"' :: '"' :: '"' :: rest => some (endLong '"' rest)
  | trimming, '\r' :: '\n' :: rest =>
    if trimming then readLongBasic? true rest
    else (readLongBasic? false rest).map (consChar '\n')
  | _, '\\' :: 'x' :: a :: b :: rest => do
    return consChar (← hexChar? [a, b]) (← readLongBasic? false rest)
  | _, '\\' :: 'u' :: a :: b :: c :: d :: rest => do
    return consChar (← hexChar? [a, b, c, d]) (← readLongBasic? false rest)
  | _, '\\' :: 'U' :: a :: b :: c :: d :: e :: f :: g :: h :: rest => do
    return consChar (← hexChar? [a, b, c, d, e, f, g, h]) (← readLongBasic? false rest)
  | _, '\\' :: '\r' :: '\n' :: rest => readLongBasic? true rest
  | _, '\\' :: c :: rest =>
    if continues (c :: rest) then readLongBasic? true rest
    else do return consChar (← escapedChar? c) (← readLongBasic? false rest)
  | trimming, c :: rest =>
    if trimming && (isBlank c || c = '\n') then readLongBasic? true rest
    else if c = '\n' || isTextChar c then (readLongBasic? false rest).map (consChar c)
    else none

/-- Reads a string without escapes over several lines. Every line end counts as a line feed. -/
def readLongLiteral? : Input → Option (List Char × Input)
  | '\'' :: '\'' :: '\'' :: rest => some (endLong '\'' rest)
  | '\r' :: '\n' :: rest => (readLongLiteral? rest).map (consChar '\n')
  | c :: rest =>
    if c = '\n' || isTextChar c then (readLongLiteral? rest).map (consChar c) else none
  | [] => none

/-- Reads a string of any form from its opening quote on. -/
def readString? : Input → Option (List Char × Input)
  | '"' :: '"' :: '"' :: rest => readLongBasic? false (dropLineEnd rest)
  | '\'' :: '\'' :: '\'' :: rest => readLongLiteral? (dropLineEnd rest)
  | '"' :: rest => readBasic? rest
  | '\'' :: rest => readLiteral? rest
  | _ => none

end Scaffold.Toml
