import Scaffold.Proofs.Source.Outline
import Scaffold.Proofs.TypeScript.Lexer

/-!
A reader of TypeScript that recovers the names a server declares: the schemas with their keys, the keys
of the metadata, the names that handlers take out of their input and give to their schemas, and the
names in the answers. It reads the source line by line, where a line ends at every character that ends
one in ECMAScript, and knows nothing of the server that the source was made from.
-/

namespace Scaffold.TypeScript

/-- A declaration, or a use of names, as it stands in the source. -/
inductive Item where
  | schema (name : String)
  | key (name : String)
  | entry (name : String)
  | handler (names : List String)
  | parse (schema : String) (names : List String)
  | answer (names : List String)
deriving DecidableEq, Repr

/-- What the lines stand in. -/
inductive Place where
  | outside
  | schema
  | metadata
deriving DecidableEq, Repr

/-- What stands behind a beginning, if the line begins so. -/
def behind? (beginning : String) (line : List Char) : Option (List Char) :=
  line.dropPrefix? beginning.toList

/-- What stands before the first `stop`, without the spaces before it. -/
def word (stop : Char) (cs : List Char) : String :=
  String.ofList ((cs.dropWhile (· == ' ')).takeWhile (· != stop))

/-- The names in a list between braces. -/
def namesIn (cs : List Char) : List String :=
  let inside := ((cs.dropWhile (· != '\x7b')).drop 1).takeWhile (· != '\x7d')
  if inside.all (· == ' ') then [] else (inside.splitOnP (· == ',')).map (word ' ')

/-- The key of a member. A line without a colon goes on with the member before. -/
def keyOf? (line : List Char) : Option String := if ':' ∈ line then some (word ':' line) else none

/-- One line outside of schemas and metadata. -/
def outsideLine (line : List Char) : Place × List Item :=
  match behind? "const " line, behind? "  parameters: \x7b" line, behind? "  handler: async (" line,
    behind? "    const params = " line, behind? "    return \x7b result: " line with
  | some rest, _, _, _, _ =>
    if behind? " = z.object(\x7b" (rest.dropWhile (· != ' ')) = some [] then
      (.schema, [.schema (word ' ' rest)])
    else (.outside, [])
  | _, some rest, _, _, _ => (if rest.isEmpty then .metadata else .outside, [])
  | _, _, some rest, _, _ => (.outside, [.handler (namesIn (rest.takeWhile (· != ')')))])
  | _, _, _, some rest, _ => (.outside, [.parse (word '.' rest) (namesIn rest)])
  | _, _, _, _, some rest => (.outside, [.answer (Mark.holes (lexer.run .start rest).2)])
  | _, _, _, _, _ => (.outside, [])

/-- One line. A schema ends where its bracket closes at the margin, the metadata where theirs closes
one level deep. -/
def readLine : Place → List Char → Place × List Item
  | .outside, line => outsideLine line
  | .schema, line =>
    match behind? "\x7d);" line with
    | some _ => (.outside, [])
    | none => (.schema, (keyOf? line).toList.map .key)
  | .metadata, line =>
    match behind? "  \x7d," line with
    | some _ => (.outside, [])
    | none => (.metadata, (keyOf? line).toList.map .entry)

/-- The reader of lines. -/
def outliner : Machine (List Char) Place Item := ⟨readLine⟩

/-- The lines of a text. -/
def sourceLines (cs : List Char) : List (List Char) := cs.splitOnP isLineTerminator

/-- What a source declares, in order. -/
def outline (source : String) : List Item :=
  (outliner.run .outside (sourceLines source.toList)).2

end Scaffold.TypeScript
