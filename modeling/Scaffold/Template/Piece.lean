import Scaffold.Template.Basic
import Scaffold.Text.Split

/-!
The pieces of a template's text: the tags between double braces, and the text between the tags. A
tag that belongs to a block and stands alone on its line takes the whole line away.
-/

namespace Scaffold.Template

/-- A tag. -/
inductive Tag where
  | value (path : Path)
  | choice (condition : Path)
  | each (list : Path)
  /-- The start of a block that has no definition. -/
  | unknownBlock (name : String)
  /-- A call of something that has no definition. -/
  | unknownCall
  | otherwise
  | close (name : String)
deriving DecidableEq, Repr

/-- Whether the tag is a part of a block. -/
def Tag.ofBlock : Tag → Bool
  | value _ | unknownCall => false
  | _ => true

/-- A piece of a template's text. -/
inductive Piece where
  | text (cs : List Char)
  | tag (t : Tag)
deriving DecidableEq, Repr

/-- Whether a character may stand in a name. -/
def isNameChar (c : Char) : Bool :=
  c.isAlphanum || c == '_' || c == '-' || c == '$' || 0x80 ≤ c.toNat

/-- Whether a character parts the words of a tag. -/
def isTagSpace (c : Char) : Bool := c == ' ' || c == '\t' || c == '\n' || c == '\r'

/-- The maximal runs of characters that do not satisfy `p`. -/
def runsWithout (p : Char → Bool) : List Char → List (List Char)
  | [] => []
  | c :: rest =>
    if p c then runsWithout p rest
    else match rest, runsWithout p rest with
      | d :: _, run :: runs => if p d then [c] :: run :: runs else (c :: run) :: runs
      | _, runs => [c] :: runs

/-- The pieces between the dots, at least one. -/
def splitDots : List Char → List (List Char)
  | [] => [[]]
  | c :: rest =>
    match splitDots rest with
    | [] => [[c]]
    | piece :: pieces => if c = '.' then [] :: piece :: pieces else (c :: piece) :: pieces

/-- A name, if the characters are those of one. -/
def nameOf? (cs : List Char) : Option String :=
  if cs.isEmpty || !cs.all isNameChar then none else some (String.ofList cs)

/-- A path: names with dots between them, where `this` at the start is the current value itself. -/
def pathOf? : List Char → Option Path
  | '@' :: cs => (nameOf? cs).map fun name => ⟨true, [name]⟩
  | cs => do
    let names ← (splitDots cs).mapM nameOf?
    match names with
    | "this" :: rest => return ⟨false, rest⟩
    | _ => return ⟨false, names⟩

/-- The tag that shows a value or calls something. -/
def showTag? : List (List Char) → Option Tag
  | [] => none
  | [word] => (pathOf? word).map Tag.value
  | name :: arguments => do
    let _ ← nameOf? name
    let _ ← arguments.mapM pathOf?
    return .unknownCall

/-- The tag that opens a block. -/
def openTag? : List (List Char) → Option Tag
  | [] => none
  | word :: arguments => do
    let name ← nameOf? word
    let paths ← arguments.mapM pathOf?
    match name, paths with
    | "if", [path] => return .choice path
    | "each", [path] => return .each path
    | _, _ => return .unknownBlock name

/-- The tag that closes a block. -/
def closeTag? : List (List Char) → Option Tag
  | [word] => (nameOf? word).map Tag.close
  | _ => none

/-- The tag between two double braces. -/
def tagOf? (cs : List Char) : Option Tag :=
  let words := runsWithout isTagSpace
  match cs with
  | '#' :: rest => openTag? (words rest)
  | '/' :: rest => closeTag? (words rest)
  | '&' :: rest => showTag? (words rest)
  | '^' :: rest => if (words rest).isEmpty then some .otherwise else none
  | _ => if words cs = ["else".toList] then some .otherwise else showTag? (words cs)

/-- Puts a character in front of the pieces. -/
def consText (c : Char) : List Piece → List Piece
  | .text cs :: pieces => .text (c :: cs) :: pieces
  | pieces => .text [c] :: pieces

/-- The pieces of a text, if all of its tags are well formed. -/
def piecesOf? : (fuel : Nat) → List Char → Option (List Piece)
  | 0, _ => some []
  | _ + 1, [] => some []
  | fuel + 1, '\x7b' :: '\x7b' :: '\x7b' :: rest => do
    let (inside, after) ← Text.splitAt? ['\x7d', '\x7d', '\x7d'] rest
    let tag ← showTag? (runsWithout isTagSpace inside)
    return .tag tag :: (← piecesOf? fuel after)
  | fuel + 1, '\x7b' :: '\x7b' :: rest => do
    let (inside, after) ← Text.splitAt? ['\x7d', '\x7d'] rest
    let tag ← tagOf? inside
    return .tag tag :: (← piecesOf? fuel after)
  | fuel + 1, c :: rest => (piecesOf? fuel rest).map (consText c)

/-- Whether a character is a blank within a line. -/
def isLineBlank (c : Char) : Bool := c == ' ' || c == '\t'

/-- Whether a character ends a line. -/
def isLineBreak (c : Char) : Bool := c == '\n' || c == '\r'

/-- Whether a line begins in the text and only blanks follow its beginning. `atStart` says whether
the text is the first of the template, where a line begins too. -/
def endsLine (atStart : Bool) (cs : List Char) : Bool :=
  match cs.reverse.dropWhile isLineBlank with
  | [] => atStart
  | c :: _ => isLineBreak c

/-- Whether only blanks stand in the text before the end of its first line. -/
def startsLine (cs : List Char) : Bool :=
  match cs.dropWhile isLineBlank with
  | [] => false
  | c :: _ => isLineBreak c

/-- Whether a tag stands alone on its line, by the piece before it, if any, whether that is the
first one, and the piece after it, if any. A line that ends with the template does not count. -/
def standsAlone (before : Option Piece) (beforeIsFirst : Bool) (after : Option Piece) : Bool :=
  (match before with
    | none => true
    | some (.text cs) => endsLine beforeIsFirst cs
    | some (.tag _) => false) &&
  (match after with
    | some (.text cs) => startsLine cs
    | some (.tag _) | none => false)

/-- The text without the rest of the line that it starts with. -/
def dropLine (cs : List Char) : List Char :=
  match cs.dropWhile isLineBlank with
  | '\r' :: '\n' :: rest => rest
  | '\n' :: rest => rest
  | rest => rest

/-- The text without the blanks at its end. -/
def dropIndent (cs : List Char) : List Char := (cs.reverse.dropWhile isLineBlank).reverse

/-- Whether the piece is a tag of a block that stands alone between its neighbours. -/
def isLoneTag (before : Option Piece) (beforeIsFirst : Bool) (piece : Piece)
    (after : Option Piece) : Bool :=
  match piece with
  | .tag t => t.ofBlock && standsAlone before beforeIsFirst after
  | .text _ => false

/-- The pieces without the lines of tags that stand alone. `before` is the piece in front as it was
read, with whether it is the first one, and `afterLone` whether it is a tag that stands alone. -/
def dropLoneLines (before : Option Piece) (beforeIsFirst afterLone : Bool) :
    List Piece → List Piece
  | [] => []
  | .tag t :: rest =>
    let lone := isLoneTag before beforeIsFirst (.tag t) rest.head?
    .tag t :: dropLoneLines (some (.tag t)) false lone rest
  | .text cs :: rest =>
    let isFirst := before.isNone
    let beforeLone := match rest with
      | next :: after :: _ => isLoneTag (some (.text cs)) isFirst next (some after)
      | [next] => isLoneTag (some (.text cs)) isFirst next none
      | [] => false
    let kept := if afterLone then dropLine cs else cs
    .text (if beforeLone then dropIndent kept else kept) ::
      dropLoneLines (some (.text cs)) isFirst false rest

end Scaffold.Template
