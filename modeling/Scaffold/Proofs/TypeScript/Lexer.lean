import Scaffold.Proofs.Source.Machine
import Scaffold.Proofs.Source.Mark

/-!
A reference lexer of ECMAScript for the forms that generated source uses: comments of both kinds,
double-quoted strings, template literals with substitutions, and code for everything else. It knows
nothing of how the source was made. A literal leaves one mark where it begins; the substitutions in a
template are code.
-/

namespace Scaffold.TypeScript

/-- Whether a character ends a line of ECMAScript. -/
def isLineTerminator (c : Char) : Bool :=
  c == '\n' || c == '\r' || c == '\u2028' || c == '\u2029'

/-- Where the lexer stands. Every state keeps, for each substitution that is open, how many braces
have been opened in it. -/
inductive LexState where
  | code (holes : List Nat)
  /-- After a slash in code. -/
  | slash (holes : List Nat)
  | lineComment (holes : List Nat)
  /-- In a comment between `/*` and `*/`, and whether the last character was a star. -/
  | blockComment (holes : List Nat) (star : Bool)
  | string (holes : List Nat)
  | stringEscape (holes : List Nat)
  | template (holes : List Nat)
  | templateEscape (holes : List Nat)
  /-- In a template after a dollar. -/
  | templateDollar (holes : List Nat)
  /-- After something that is no ECMAScript. -/
  | fault
deriving DecidableEq

/-- Where a text begins and where it ought to end: in code, with nothing open. -/
def LexState.start : LexState := .code []

/-- One character of code. The brace that closes a substitution leads back to its template. -/
def codeStep (holes : List Nat) (c : Char) : LexState × List Mark :=
  if c = '"' then (.string holes, [.text])
  else if c = '\x60' then (.template holes, [.text])
  else if c = '/' then (.slash holes, [])
  else
    match holes with
    | [] => (.code [], [.code c])
    | depth :: rest =>
      if c = '\x7b' then (.code ((depth + 1) :: rest), [.code c])
      else if c = '\x7d' then
        if depth = 0 then (.template rest, [.field c]) else (.code ((depth - 1) :: rest), [.code c])
      else (.code (depth :: rest), [.code c])

/-- One character of a template. -/
def templateStep (holes : List Nat) (c : Char) : LexState × List Mark :=
  if c = '\x60' then (.code holes, [])
  else if c = '\\' then (.templateEscape holes, [])
  else if c = '$' then (.templateDollar holes, [])
  else (.template holes, [])

/-- One character. -/
def lexStep : LexState → Char → LexState × List Mark
  | .code holes, c => codeStep holes c
  | .slash holes, c =>
    if c = '/' then (.lineComment holes, [])
    else if c = '*' then (.blockComment holes false, [])
    else ((codeStep holes c).1, .code '/' :: (codeStep holes c).2)
  | .lineComment holes, c =>
    if isLineTerminator c then (.code holes, [.code c]) else (.lineComment holes, [])
  | .blockComment holes star, c =>
    if star ∧ c = '/' then (.code holes, []) else (.blockComment holes (c == '*'), [])
  | .string holes, c =>
    if c = '"' then (.code holes, [])
    else if c = '\\' then (.stringEscape holes, [])
    else if c = '\n' ∨ c = '\r' then (.fault, [])
    else (.string holes, [])
  | .stringEscape holes, _ => (.string holes, [])
  | .template holes, c => templateStep holes c
  | .templateEscape holes, _ => (.template holes, [])
  | .templateDollar holes, c =>
    if c = '\x7b' then (.code (0 :: holes), [.field c]) else templateStep holes c
  | .fault, _ => (.fault, [])

/-- The lexer. -/
def lexer : Machine Char LexState Mark := ⟨lexStep⟩

/-- Where the lexer ends on a source text, and what it has seen. -/
def lex (source : String) : LexState × List Mark := lexer.run .start source.toList

/-- The lines of a source text that hold code, without comments and without the text of literals. -/
def skeleton (source : String) : List (List Mark) := Mark.codeLines isLineTerminator (lex source).2

end Scaffold.TypeScript
