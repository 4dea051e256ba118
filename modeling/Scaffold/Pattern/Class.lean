import Scaffold.Pattern.Escape

namespace Scaffold.Pattern

/-- The names of the classes of ASCII characters. -/
def asciiNames : List String :=
  ["alnum", "alpha", "ascii", "blank", "cntrl", "digit", "graph", "lower", "print", "punct",
    "space", "upper", "word", "xdigit"]

/-- A class of ASCII characters by its name, such as `[:alpha:]`, if the input starts with one. -/
def readNamedClass? (cs : Input) : Option (ClassSet × Input) := do
  match cs with
  | '[' :: ':' :: rest =>
    let (negated, rest) := match rest with
      | '^' :: rest => (true, rest)
      | _ => (false, rest)
    let (name, rest) ← Text.splitAt? [':'] rest
    match rest with
    | ']' :: rest =>
      let name := String.ofList name
      if asciiNames.contains name then return (.named negated name, rest) else none
    | _ => none
  | _ => none

/-- The input from the next piece on; there must be one before the class ends. -/
def advance (ignoreSpace : Bool) (cs : Input) : Except Problem Input :=
  match skipSpace ignoreSpace cs with
  | [] => .error .classUnclosed
  | cs => .ok cs

/-- A character as an item of a class. -/
def plainItem (c : Char) : ClassSet := .literal ⟨c, false⟩

/-- Reads the dashes at the start of a class, which stand for themselves. -/
def readDashes (ignoreSpace : Bool) :
    (fuel : Nat) → Input → Except Problem (List ClassSet × Input)
  | 0, cs => .ok ([], cs)
  | fuel + 1, cs =>
    match cs with
    | '-' :: rest => do
      let rest ← advance ignoreSpace rest
      let (items, rest) ← readDashes ignoreSpace fuel rest
      return (plainItem '-' :: items, rest)
    | _ => .ok ([], cs)

/-- Reads the start of a class after its bracket: whether it is negated, and the dashes and the
bracket that stand for themselves there. -/
def readClassStart (ignoreSpace : Bool) (cs : Input) :
    Except Problem (Bool × List ClassSet × Input) := do
  let cs ← advance ignoreSpace cs
  let (negated, cs) ← match cs with
    | '^' :: rest => do pure (true, ← advance ignoreSpace rest)
    | _ => pure (false, cs)
  let (dashes, cs) ← readDashes ignoreSpace (cs.length + 1) cs
  match dashes, cs with
  | [], ']' :: rest => return (negated, [plainItem ']'], ← advance ignoreSpace rest)
  | _, _ => return (negated, dashes, cs)

/-- Reads one end of a range, or an item that is none. -/
def readClassAtom (ignoreSpace : Bool) : Input → Except Problem (Atom × Input)
  | [] => .error .classUnclosed
  | c :: rest =>
    if c = '\\' then readEscape ignoreSpace rest else .ok (.literal ⟨c, false⟩, rest)

/-- An atom as an item of a class. -/
def Atom.toItem : Atom → Except Problem ClassSet
  | literal l => .ok (.literal l)
  | shorthand negated s => .ok (.shorthand negated s)
  | property negated p => .ok (.property negated p)
  | dot | assertion _ => .error .classEscape

/-- An atom as an end of a range. -/
def Atom.toBound : Atom → Except Problem Literal
  | literal l => .ok l
  | _ => .error .classRangeBound

/-- The character that decides whether a dash begins the second half of a range: the next one, or,
where blanks are passed over, the next one that is no blank, even in a comment. -/
def afterDash (ignoreSpace : Bool) (cs : Input) : Option Char :=
  if ignoreSpace then
    match cs.dropWhile Text.isBlank with
    | '#' :: rest => (rest.dropWhile Text.isBlank).head?
    | rest => rest.head?
  else cs.head?

/-- Reads an item of a class or a range. A dash is plain before a closing bracket, and before
another dash it belongs to an operation. -/
def readRange (ignoreSpace : Bool) (cs : Input) : Except Problem (ClassSet × Input) := do
  let (first, rest) ← readClassAtom ignoreSpace cs
  match ← advance ignoreSpace rest with
  | '-' :: rest =>
    if afterDash ignoreSpace rest = some ']' ∨ afterDash ignoreSpace rest = some '-' then
      return (← first.toItem, '-' :: rest)
    else
      let (last, rest) ← readClassAtom ignoreSpace (← advance ignoreSpace rest)
      let first ← first.toBound
      let last ← last.toBound
      if first.char ≤ last.char then return (.range first last, rest) else throw .classRangeOrder
  | rest => return (← first.toItem, rest)

/-- The operation that two characters stand for. -/
def operationOf? (c d : Char) : Option SetOperation :=
  if c = '&' ∧ d = '&' then some .intersection
  else if c = '-' ∧ d = '-' then some .difference
  else if c = '~' ∧ d = '~' then some .symmetricDifference
  else none

/-- The operation that the input starts with, if it does. -/
def readOperation? : Input → Option (SetOperation × Input)
  | c :: d :: rest => (operationOf? c d).map fun o => (o, rest)
  | _ => none

/-- The set that a waiting operation makes with the set to its right. -/
def applyWaiting (waiting : Option (SetOperation × ClassSet)) (right : ClassSet) : ClassSet :=
  match waiting with
  | some (o, left) => .operation o left right
  | none => right

/-- Reads the items of a class up to its closing bracket. Of the items of the last union the later
come first in `items`; `waiting` is the operation in front of that union, with the set to its left.
-/
def readClassItems (ignoreSpace : Bool) :
    (fuel : Nat) → (waiting : Option (SetOperation × ClassSet)) → (items : List ClassSet) →
    Input → Except Problem (ClassSet × Input)
  | 0, _, _, _ => .error .classUnclosed
  | fuel + 1, waiting, items, cs => do
    match ← advance ignoreSpace cs with
    | ']' :: rest => return (applyWaiting waiting (ClassSet.inUnion items.reverse), rest)
    | '[' :: rest =>
      match readNamedClass? ('[' :: rest) with
      | some (item, rest) => readClassItems ignoreSpace fuel waiting (item :: items) rest
      | none =>
        let (negated, inner, rest) ← readClassStart ignoreSpace rest
        let (set, rest) ← readClassItems ignoreSpace fuel none inner.reverse rest
        readClassItems ignoreSpace fuel waiting (.bracketed negated set :: items) rest
    | cs =>
      match readOperation? cs with
      | some (o, rest) =>
        let left := applyWaiting waiting (ClassSet.inUnion items.reverse)
        readClassItems ignoreSpace fuel (some (o, left)) [] rest
      | none =>
        let (item, rest) ← readRange ignoreSpace cs
        readClassItems ignoreSpace fuel waiting (item :: items) rest

/-- Reads a class after its opening bracket. -/
def readClass (ignoreSpace : Bool) (cs : Input) : Except Problem (Ast × Input) := do
  let (negated, items, rest) ← readClassStart ignoreSpace cs
  let (set, rest) ← readClassItems ignoreSpace (rest.length + 1) none items.reverse rest
  return (.bracket negated set, rest)

end Scaffold.Pattern
