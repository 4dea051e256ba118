import Scaffold.Proofs.Python.Lexer
import Scaffold.Proofs.Source.Bracket
import Scaffold.Proofs.Source.Outline

/-!
A reader of Python that recovers the names a server declares: the models with their fields, the
handlers with their parameters, the calls that validate input with their keyword arguments, and the
names in the answers. It reads what the reference lexer leaves, statement by statement, and knows
nothing of the server that the source was made from.
-/

namespace Scaffold.Python

open Mark (isCode)

/-- A declaration, or a use of names, as it stands in the source. -/
inductive Item where
  | model (name : String)
  | field (name : String)
  | handler (name : String) (parameters : List String)
  | call (model : String) (arguments : List String)
  | answer (names : List String)
deriving DecidableEq, Repr

/-- Whether the mark is the end of a line. -/
def isBreak : Mark → Bool := isCode isLineBreak

/-- Whether the mark lays out code and is no code itself. -/
def isLayout : Mark → Bool := isCode fun c => c == ' ' || c == '\t' || isLineBreak c

/-- The statements of a source. A line that ends inside of brackets goes on, and blank lines are
none. -/
def statements (ms : List Mark) : List (List Mark) :=
  (Mark.splitOutside isBreak 0 ms).filter fun line => !line.all Mark.isSpace

/-- What stands before the first `stop`, without the layout before it. -/
def word (stop : Char) (ms : List Mark) : String :=
  String.ofList (((ms.dropWhile isLayout).takeWhile (· != .code stop)).map Mark.char)

/-- What stands between the commas outside all brackets, up to the bracket that closes. -/
def parts (ms : List Mark) : List (List Mark) :=
  let inside := Mark.untilClosed 0 ms
  if inside.all isLayout then [] else Mark.splitOutside (isCode (· == ',')) 0 inside

/-- What stands behind the first opening parenthesis. -/
def behindOpen (ms : List Mark) : List Mark := (ms.dropWhile (· != .code '(')).drop 1

/-- What stands behind a beginning, if the marks begin so. -/
def behind? (beginning : String) (ms : List Mark) : Option (List Mark) :=
  ms.dropPrefix? (Mark.ofCode beginning)

/-- One statement. The indented statements after the head of a model are its fields. -/
def statement (inModel : Bool) (line : List Mark) : Bool × List Item :=
  if line.head? = some (.code ' ') then
    if inModel then (true, [.field (word ':' line)])
    else
      match behind? "    params = " line, behind? "    return " line with
      | some rest, _ => (false, [.call (word '(' rest) ((parts (behindOpen rest)).map (word '='))])
      | none, some rest => (false, [.answer (Mark.holes rest)])
      | none, none => (false, [])
  else
    match behind? "class " line, behind? "async def " line with
    | some rest, _ => (true, [.model (word '(' rest)])
    | none, some rest =>
      (false, [.handler (word '(' rest) ((parts (behindOpen rest)).map (word ':'))])
    | none, none => (false, [])

/-- The reader of statements; its state says whether they stand in a model. -/
def outliner : Machine (List Mark) Bool Item := ⟨statement⟩

/-- What a source declares, in order. -/
def outline (source : String) : List Item :=
  (outliner.run false (statements (lex source).2)).2

end Scaffold.Python
