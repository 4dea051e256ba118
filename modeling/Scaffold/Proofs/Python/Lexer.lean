import Scaffold.Proofs.Source.Machine
import Scaffold.Proofs.Source.Mark

/-!
A reference lexer of Python for the forms that generated source uses: comments, double-quoted and
triple-quoted strings, f-strings, and code for everything else. It knows nothing of how the source
was made. A literal leaves one mark where it begins; an f-string also leaves the expressions in it.
-/

namespace Scaffold.Python

/-- Whether a character ends a line of Python. -/
def isLineBreak (c : Char) : Bool := c == '\n' || c == '\r'

/-- Whether a character can stand in a word of code. -/
def isWordChar (c : Char) : Bool := c.isAlphanum || c == '_' || 0x80 ≤ c.toNat

/-- What code stands right before the next character. -/
inductive Before where
  /-- Nothing that bears on a quote. -/
  | gap
  /-- The letter `f` as a word of its own; a quote after it opens an f-string. -/
  | formatPrefix
  /-- Another word. -/
  | word
  /-- An empty string; one more quote makes it a triple quote. -/
  | emptyText
deriving DecidableEq

/-- What stands before the next character once `c` has been read as code. -/
def Before.next (before : Before) (c : Char) : Before :=
  if isWordChar c then
    if c = 'f' ∧ (before = .gap ∨ before = .emptyText) then .formatPrefix else .word
  else .gap

/-- Where the lexer stands. -/
inductive LexState where
  | code (before : Before)
  | comment
  /-- After the first quote of a literal. -/
  | opened
  | string
  | stringEscape
  /-- In a triple-quoted string, after this many quotes in a row. -/
  | long (quotes : Nat)
  | longEscape
  | format
  | formatEscape
  /-- In an f-string after one opening brace. -/
  | formatOpen
  /-- In an f-string after one closing brace. -/
  | formatClose
  /-- In an expression inside an f-string. -/
  | field
  /-- After something that is no Python. -/
  | fault
deriving DecidableEq

/-- Where a text begins and where it ought to end: in code. -/
def LexState.start : LexState := .code .gap

/-- One character of code. -/
def codeStep (before : Before) (c : Char) : LexState × List Mark :=
  if c = '"' then
    match before with
    | .formatPrefix => (.format, [.text])
    | .emptyText => (.long 0, [])
    | .gap | .word => (.opened, [.text])
  else if c = '#' then (.comment, [])
  else (.code (before.next c), [.code c])

/-- One character of a string, which may not run over the end of a line. -/
def stringStep (c : Char) : LexState × List Mark :=
  if c = '"' then (.code .gap, [])
  else if c = '\\' then (.stringEscape, [])
  else if isLineBreak c then (.fault, [])
  else (.string, [])

/-- One character of a triple-quoted string. -/
def longStep (quotes : Nat) (c : Char) : LexState × List Mark :=
  if c = '"' then if quotes = 2 then (.code .gap, []) else (.long (quotes + 1), [])
  else if c = '\\' then (.longEscape, [])
  else (.long 0, [])

/-- One character of the text of an f-string. -/
def formatStep (c : Char) : LexState × List Mark :=
  if c = '"' then (.code .gap, [])
  else if c = '\\' then (.formatEscape, [])
  else if c = '\x7b' then (.formatOpen, [])
  else if c = '\x7d' then (.formatClose, [])
  else if isLineBreak c then (.fault, [])
  else (.format, [])

/-- One character of an expression inside an f-string; there are no literals in it. -/
def fieldStep (c : Char) : LexState × List Mark :=
  if c = '\x7d' then (.format, [.field c])
  else if c = '"' ∨ c = '#' ∨ c = '\\' ∨ c = '\x7b' ∨ isLineBreak c then (.fault, [])
  else (.field, [.field c])

/-- One character. -/
def lexStep : LexState → Char → LexState × List Mark
  | .code before, c => codeStep before c
  | .comment, c => if isLineBreak c then (.code .gap, [.code c]) else (.comment, [])
  | .opened, c => if c = '"' then (.code .emptyText, []) else stringStep c
  | .string, c => stringStep c
  | .stringEscape, _ => (.string, [])
  | .long quotes, c => longStep quotes c
  | .longEscape, _ => (.long 0, [])
  | .format, c => formatStep c
  | .formatEscape, c => if c = '\x7b' ∨ c = '\x7d' then formatStep c else (.format, [])
  | .formatOpen, c =>
    if c = '\x7b' then (.format, [])
    else if c = '\x7d' then (.fault, [])
    else ((fieldStep c).1, .field '\x7b' :: (fieldStep c).2)
  | .formatClose, c => if c = '\x7d' then (.format, []) else (.fault, [])
  | .field, c => fieldStep c
  | .fault, _ => (.fault, [])

/-- The lexer. -/
def lexer : Machine Char LexState Mark := ⟨lexStep⟩

/-- Where the lexer ends on a source text, and what it has seen. -/
def lex (source : String) : LexState × List Mark := lexer.run .start source.toList

/-- The lines of a source text that hold code, without comments and without the text of literals. -/
def skeleton (source : String) : List (List Mark) := Mark.codeLines isLineBreak (lex source).2

end Scaffold.Python
