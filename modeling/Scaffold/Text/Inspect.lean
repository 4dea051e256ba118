import Scaffold.Text.Table.GraphemeExtend
import Scaffold.Text.Table.Unprintable

namespace Scaffold.Text

/-- Whether a character takes a place of its own although it attaches to the one before: the two
halfwidth sound marks of katakana do. -/
def isSoundMark (c : Char) : Bool := c = '\uff9e' || c = '\uff9f'

/-- A character as a message shows it. Characters that attach to the one before and characters
without a visible form are given by their code point. -/
def inspectChar (c : Char) : List Char :=
  if c = '\x00' then ['\\', '0']
  else if c = '\t' then ['\\', 't']
  else if c = '\r' then ['\\', 'r']
  else if c = '\n' then ['\\', 'n']
  else if c = '"' then ['\\', '"']
  else if c = '\\' then ['\\', '\\']
  else if (graphemeExtend.contains c && !isSoundMark c) || unprintable.contains c then
    ['\\', 'u', '\x7b'] ++ Nat.toDigits 16 c.toNat ++ ['\x7d']
  else [c]

/-- The text as a message shows it. -/
def inspect (s : String) : String :=
  String.ofList ('"' :: (s.toList.flatMap inspectChar ++ ['"']))

end Scaffold.Text
