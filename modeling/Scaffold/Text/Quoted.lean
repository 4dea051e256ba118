import Scaffold.Text.LineEnd

/-!
Double-quoted string literals. The escapes are the ones JSON knows, which Python and JavaScript
read alike; in source text the line ends beyond ASCII are escaped as well, so a literal never
spans two lines.
-/

namespace Scaffold.Text

/-- The escape of a code unit by four hexadecimal digits. -/
def hexEscape (n : Nat) : List Char :=
  ['\\', 'u', Nat.digitChar (n / 0x1000 % 16), Nat.digitChar (n / 0x100 % 16),
    Nat.digitChar (n / 0x10 % 16), Nat.digitChar (n % 16)]

/-- A character inside a JSON string. -/
def jsonChar (c : Char) : List Char :=
  if c = '"' then ['\\', '"']
  else if c = '\\' then ['\\', '\\']
  else if c = '\x08' then ['\\', 'b']
  else if c = '\x0c' then ['\\', 'f']
  else if c = '\n' then ['\\', 'n']
  else if c = '\r' then ['\\', 'r']
  else if c = '\t' then ['\\', 't']
  else if c.toNat < 0x20 then hexEscape c.toNat
  else [c]

/-- A character inside a string literal of source text. -/
def sourceChar (c : Char) : List Char :=
  if isWideLineEnd c then hexEscape c.toNat else jsonChar c

/-- The text between double quotes, each character written by `escape`. -/
def quoteWith (escape : Char → List Char) (cs : List Char) : List Char :=
  '"' :: (cs.flatMap escape ++ ['"'])

/-- The text as a JSON string. -/
def jsonQuote (s : String) : String := String.ofList (quoteWith jsonChar s.toList)

/-- The text as a string literal of source text. -/
def quote (s : String) : String := String.ofList (quoteWith sourceChar s.toList)

end Scaffold.Text
