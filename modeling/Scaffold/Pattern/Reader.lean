import Scaffold.Pattern.Class
import Scaffold.Text.Table.Alphabetic
import Scaffold.Text.Table.Numeric

namespace Scaffold.Pattern

/-- What a reader keeps track of: whether blanks are passed over, and the names of the groups so
far. -/
structure State where
  ignoreSpace : Bool := false
  names : List String := []

/-- The flag of a letter. -/
def flagOf? (c : Char) : Option Flag :=
  match c with
  | 'i' => some .ignoreCase
  | 'm' => some .multiLine
  | 's' => some .dotMatchesLineEnd
  | 'U' => some .swapGreed
  | 'u' => some .unicode
  | 'R' => some .carriageReturn
  | 'x' => some .ignoreSpace
  | _ => none

/-- Reads flags up to the colon or the parenthesis behind them, and answers which of the two it is.
`negated` says whether a dash has come, `dangling` whether it came last. -/
def readFlags (negated dangling : Bool) (changes : List FlagChange) :
    Input → Except Problem (List FlagChange × Char × Input)
  | [] => .error .flagEnd
  | c :: rest =>
    if c = ':' ∨ c = ')' then
      if dangling then .error .flagDangling else .ok (changes, c, rest)
    else if c = '-' then
      if negated then .error .flagNegatedTwice else readFlags true true changes rest
    else match flagOf? c with
      | none => .error .flagUnknown
      | some flag =>
        if changes.any (·.flag = flag) then .error .flagDuplicate
        else readFlags negated false (changes ++ [⟨flag, !negated⟩]) rest

/-- Whether a character may stand in the name of a group. -/
def isNameChar (first : Bool) (c : Char) : Bool :=
  c = '_' || Text.alphabetic.contains c ||
    (!first && (Text.numeric.contains c || c = '.' || c = '[' || c = ']'))

/-- Reads the name of a group and the angle bracket behind it. -/
def readGroupName (first : Bool) : Input → Except Problem (List Char × Input)
  | [] => .error .captureNameUnclosed
  | c :: rest =>
    if c = '>' then .ok ([], rest)
    else if !isNameChar first c then .error .captureNameInvalid
    else do
      let (name, rest) ← readGroupName false rest
      return (c :: name, rest)

/-- Whether the input starts with one of the marks of look-around. -/
def isLookAround : Input → Bool
  | '?' :: '=' :: _ => true
  | '?' :: '!' :: _ => true
  | '?' :: '<' :: '=' :: _ => true
  | '?' :: '<' :: '!' :: _ => true
  | _ => false

/-- What an opening parenthesis begins. -/
inductive Opening where
  /-- Flags for the rest of the group around it. -/
  | flags (changes : List FlagChange)
  /-- A group, with its name if it has one. -/
  | group (captures : Bool) (name : Option String) (changes : List FlagChange)

/-- Reads the name of a group after the mark that announces it. -/
def readNamedOpening (names : List String) (cs : Input) : Except Problem (Opening × Input) := do
  let (name, rest) ← readGroupName true cs
  let name := String.ofList name
  if name.isEmpty then throw .captureNameEmpty
  else if names.contains name then throw .captureNameDuplicate
  else return (.group true (some name) [], rest)

/-- Reads what an opening parenthesis begins, after the parenthesis. -/
def readOpening (st : State) (cs : Input) : Except Problem (Opening × Input) :=
  let cs := skipSpace st.ignoreSpace cs
  if isLookAround cs then .error .lookAround
  else match cs with
    | '?' :: 'P' :: '<' :: rest => readNamedOpening st.names rest
    | '?' :: '<' :: rest => readNamedOpening st.names rest
    | ['?'] => .error .groupUnclosed
    | '?' :: rest => do
      let (changes, mark, after) ← readFlags false false [] rest
      if mark = ':' then return (.group false none changes, after)
      else if changes.isEmpty then throw .repetitionMissing
      else return (.flags changes, after)
    | _ => .ok (.group true none [], cs)

/-- Takes the items that a repetition repeats the first of: there must be one, and flags cannot be
repeated. -/
def takeRepeated : List Ast → Except Problem (Ast × List Ast)
  | [] => .error .repetitionMissing
  | .flags _ :: _ => .error .repetitionMissing
  | item :: items => .ok (item, items)

/-- The input without the question mark that makes a repetition take little. -/
def dropLazyMark : Input → Input
  | '?' :: rest => rest
  | cs => cs

/-- Reads the digits of a decimal number, as far as they go. -/
def readDigits (ignoreSpace : Bool) : (fuel : Nat) → Input → List Char × Input
  | 0, cs => ([], cs)
  | _ + 1, [] => ([], [])
  | fuel + 1, c :: rest =>
    if c.isDigit then
      let (ds, rest) := readDigits ignoreSpace fuel (skipSpace ignoreSpace rest)
      (c :: ds, rest)
    else ([], c :: rest)

/-- The input after blanks, of which each may be followed by a comment where those are passed over.
-/
def skipBlanks (ignoreSpace : Bool) (cs : Input) : Input :=
  match cs with
  | [] => []
  | c :: rest =>
    if Text.isBlank c then
      if ignoreSpace then skipComments false rest else rest.dropWhile Text.isBlank
    else cs

/-- Reads the number of a count, with blanks around it. The input after it is known also if there is
no number. -/
def readCountNumber (ignoreSpace : Bool) (cs : Input) : Except Problem Nat × Input :=
  let cs := cs.dropWhile Text.isBlank
  let (ds, rest) := readDigits ignoreSpace (cs.length + 1) cs
  let rest := skipBlanks ignoreSpace rest
  if ds.isEmpty then (.error .countEmpty, rest)
  else if digitsValue ds < 2 ^ 32 then (.ok (digitsValue ds), rest)
  else (.error .decimal, rest)

/-- The input from the next piece on; there must be one before the count ends. -/
def advanceCount (ignoreSpace : Bool) (cs : Input) : Except Problem Input :=
  match skipSpace ignoreSpace cs with
  | [] => .error .countUnclosed
  | cs => .ok cs

/-- Reads a count after its opening brace: the least and the greatest number, and the brace that
closes it. -/
def readCount (ignoreSpace : Bool) (cs : Input) :
    Except Problem (Nat × Option Nat × Input) := do
  let cs ← advanceCount ignoreSpace cs
  let (first, rest) := readCountNumber ignoreSpace cs
  let (least, most, rest) ← match rest with
    | [] => throw .countUnclosed
    | ',' :: rest => do
      let rest ← advanceCount ignoreSpace rest
      match rest with
      | '\x7d' :: _ => pure (← first, none, rest)
      | _ =>
        let least ← first
        let (last, rest) := readCountNumber ignoreSpace rest
        pure (least, some (← last), rest)
    | _ => do
      let n ← first
      pure (n, some n, rest)
  match rest with
  | '\x7d' :: rest =>
    let rest := dropLazyMark (skipSpace ignoreSpace rest)
    if most.any (· < least) then throw .countOrder else return (least, most, rest)
  | _ => throw .countUnclosed

/-- The branches so far as one pattern; the later come first, in the branches and in the items of
the last of them. -/
def finish (branches : List Ast) (items : List Ast) : Ast :=
  Ast.inChoice (Ast.inSequence items.reverse :: branches).reverse

/-- Reads branches up to the end or to a closing parenthesis, behind those before and the items of
the last one. -/
def readBranches : (fuel : Nat) → State → (branches items : List Ast) → Input →
    Except Problem (Ast × State × Input)
  | 0, _, _, _, _ => .error .groupUnclosed
  | fuel + 1, st, branches, items, cs =>
    let repeated (least : Nat) (most : Option Nat) (rest : Input) := do
      let (item, items) ← takeRepeated items
      readBranches fuel st branches (.repetition least most item :: items) (dropLazyMark rest)
    match skipSpace st.ignoreSpace cs with
    | [] => .ok (finish branches items, st, [])
    | ')' :: rest => .ok (finish branches items, st, ')' :: rest)
    | '|' :: rest => readBranches fuel st (Ast.inSequence items.reverse :: branches) [] rest
    | '(' :: rest => do
      match ← readOpening st rest with
      | (.flags changes, rest) =>
        let st := { st with ignoreSpace := flagAfter .ignoreSpace st.ignoreSpace changes }
        readBranches fuel st branches (.flags changes :: items) rest
      | (.group captures name changes, rest) =>
        let inner : State :=
          ⟨flagAfter .ignoreSpace st.ignoreSpace changes, name.toList ++ st.names⟩
        let (body, after, rest) ← readBranches fuel inner [] [] rest
        match rest with
        | ')' :: rest =>
          readBranches fuel ⟨st.ignoreSpace, after.names⟩ branches
            (.group captures changes body :: items) rest
        | _ => throw .groupUnclosed
    | '[' :: rest => do
      let (item, rest) ← readClass st.ignoreSpace rest
      readBranches fuel st branches (item :: items) rest
    | '?' :: rest => repeated 0 (some 1) rest
    | '*' :: rest => repeated 0 none rest
    | '+' :: rest => repeated 1 none rest
    | '\x7b' :: rest => do
      let (item, items) ← takeRepeated items
      let (least, most, rest) ← readCount st.ignoreSpace rest
      readBranches fuel st branches (.repetition least most item :: items) rest
    | '\\' :: rest => do
      let (a, rest) ← readEscape st.ignoreSpace rest
      readBranches fuel st branches (.atom a :: items) rest
    | '.' :: rest => readBranches fuel st branches (.atom .dot :: items) rest
    | '^' :: rest => readBranches fuel st branches (.atom (.assertion .lineStart) :: items) rest
    | '$' :: rest => readBranches fuel st branches (.atom (.assertion .lineEnd) :: items) rest
    | c :: rest => readBranches fuel st branches (.atom (.literal ⟨c, false⟩) :: items) rest

/-- Reads a whole pattern. -/
def read (pattern : String) : Except Problem Ast := do
  let cs := pattern.toList
  let (ast, _, rest) ← readBranches (cs.length + 1) {} [] [] cs
  if !rest.isEmpty then throw .groupUnopened
  else if nestingLimit < ast.depth then throw .nesting
  else return ast

end Scaffold.Pattern
