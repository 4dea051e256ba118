import Scaffold.Template.Piece

namespace Scaffold.Template

/-- What a list of parts ends at. -/
inductive Stop where
  | finish
  | otherwise
  | close (name : String)
deriving DecidableEq, Repr

/-- Checks that a block closes under its own name. -/
def closes? (name : String) (stop : Stop) : Option Unit :=
  if stop = .close name then some () else none

mutual

/-- Reads parts up to the end, or up to a tag that ends the block they are in; answers the parts,
what they end at, and the pieces after that. -/
def readParts : (fuel : Nat) → List Piece → Option (List Part × Stop × List Piece)
  | 0, _ => none
  | _ + 1, [] => some ([], .finish, [])
  | fuel + 1, .text cs :: rest => do
    let (parts, stop, rest) ← readParts fuel rest
    return (if cs.isEmpty then parts else .text (String.ofList cs) :: parts, stop, rest)
  | _ + 1, .tag .otherwise :: rest => some ([], .otherwise, rest)
  | _ + 1, .tag (.close name) :: rest => some ([], .close name, rest)
  | fuel + 1, .tag (.value path) :: rest => do
    let (parts, stop, rest) ← readParts fuel rest
    return (.value path :: parts, stop, rest)
  | fuel + 1, .tag .unknownCall :: rest => do
    let (parts, stop, rest) ← readParts fuel rest
    return (.unknown :: parts, stop, rest)
  | fuel + 1, .tag (.choice path) :: rest => do
    let (yes, no, rest) ← readBlock fuel "if" rest
    let (parts, stop, rest) ← readParts fuel rest
    return (.choice path yes (no.getD []) :: parts, stop, rest)
  | fuel + 1, .tag (.each path) :: rest => do
    let (body, otherwise, rest) ← readBlock fuel "each" rest
    let (parts, stop, rest) ← readParts fuel rest
    return (.each path body otherwise :: parts, stop, rest)
  | fuel + 1, .tag (.unknownBlock name) :: rest => do
    let (_, _, rest) ← readBlock fuel name rest
    let (parts, stop, rest) ← readParts fuel rest
    return (.unknown :: parts, stop, rest)

/-- Reads the inside of a block and the tag that closes it: its parts, and those behind its `else`
if it has one. -/
def readBlock : (fuel : Nat) → (name : String) → List Piece →
    Option (List Part × Option (List Part) × List Piece)
  | 0, _, _ => none
  | fuel + 1, name, pieces => do
    let (yes, stop, rest) ← readParts fuel pieces
    if stop = .otherwise then
      let (no, stop, rest) ← readParts fuel rest
      closes? name stop
      return (yes, some no, rest)
    else
      closes? name stop
      return (yes, none, rest)

end

/-- The parts of a template's text. -/
def parse? (cs : List Char) : Option (List Part) := do
  let pieces ← piecesOf? (cs.length + 1) cs
  let (parts, stop, _) ← readParts (2 * pieces.length + 1) (dropLoneLines none false false pieces)
  if stop = .finish then return parts else none

end Scaffold.Template
