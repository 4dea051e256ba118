import Scaffold.Toml.Scalar

namespace Scaffold.Toml

/-- How deep arrays and inline tables may nest. -/
def depthLimit : Nat := 80

/-- Whether a character may stand in a key without quotes. -/
def isKeyChar (c : Char) : Bool := c.isAlphanum || c = '_' || c = '-'

/-- Reads one name of a key. -/
def readName? (cs : Input) : Option (String × Input) :=
  match cs with
  | '"' :: rest => (readBasic? rest).map fun (name, rest) => (String.ofList name, rest)
  | '\'' :: rest => (readLiteral? rest).map fun (name, rest) => (String.ofList name, rest)
  | _ =>
    let name := cs.takeWhile isKeyChar
    if name.isEmpty then none else some (String.ofList name, cs.dropWhile isKeyChar)

/-- Reads a key: the names on the way, the last name, and the input after the blanks behind it. -/
def readKey? : (fuel : Nat) → Input → Option (List String × String × Input)
  | 0, _ => none
  | fuel + 1, cs => do
    let (name, rest) ← readName? (skipBlanks cs)
    match skipBlanks rest with
    | '.' :: rest => do
      let (path, last, rest) ← readKey? fuel rest
      return (name :: path, last, rest)
    | rest => return ([], name, rest)

/-- Reads past a comment, if one follows, up to the end of its line. -/
def skipComment? : Input → Option Input
  | '#' :: rest =>
    let after := rest.dropWhile isTextChar
    match after with
    | [] => some []
    | _ => (lineEnd? after).map fun _ => after
  | cs => some cs

/-- Reads past blanks, line ends and comments, as many as there are. `inComment` says whether a
comment is being read. -/
def skipGap? : (inComment : Bool) → Input → Option Input
  | _, [] => some []
  | _, '\r' :: '\n' :: rest => skipGap? false rest
  | _, '\n' :: rest => skipGap? false rest
  | true, c :: rest => if isTextChar c then skipGap? true rest else none
  | false, c :: rest =>
    if isBlank c then skipGap? false rest
    else if c = '#' then skipGap? true rest
    else some (c :: rest)

mutual

/-- Reads a value; `depth` is how many levels deeper it may go. -/
def readValue? : (fuel depth : Nat) → Input → Option (Node × Input)
  | 0, _, _ => none
  | fuel + 1, depth, cs =>
    match cs with
    | '[' :: rest =>
      match depth with
      | 0 => none
      | depth + 1 => do
        let (items, rest) ← readItems? fuel depth rest
        return (.list items, rest)
    | '\x7b' :: rest =>
      match depth with
      | 0 => none
      | depth + 1 => do
        let (entries, rest) ← readEntries? fuel depth [] rest
        return (.table .closed entries, rest)
    | c :: _ =>
      if c = '"' || c = '\'' then do
        let (s, rest) ← readString? cs
        return (.leaf (.string (String.ofList s)), rest)
      else do
        let (v, rest) ← readLeaf? cs
        return (.leaf v, rest)
    | [] => none

/-- Reads the items of an array and its closing bracket. -/
def readItems? : (fuel depth : Nat) → Input → Option (List Node × Input)
  | 0, _, _ => none
  | fuel + 1, depth, cs => do
    match ← skipGap? false cs with
    | ']' :: rest => return ([], rest)
    | cs =>
      let (item, rest) ← readValue? fuel depth cs
      match ← skipGap? false rest with
      | ']' :: rest => return ([item], rest)
      | ',' :: rest =>
        let (items, rest) ← readItems? fuel depth rest
        return (item :: items, rest)
      | _ => none

/-- Reads the entries of an inline table behind those before, and its closing brace. -/
def readEntries? : (fuel depth : Nat) → Entries → Input → Option (Entries × Input)
  | 0, _, _, _ => none
  | fuel + 1, depth, before, cs => do
    match ← skipGap? false cs with
    | '\x7d' :: rest => return (before, rest)
    | cs =>
      let (path, key, rest) ← readKey? fuel cs
      let rest ← readMark? '=' rest
      let (value, rest) ← readValue? fuel depth (skipBlanks rest)
      let entries ← before.insert? key value path
      match ← skipGap? false rest with
      | '\x7d' :: rest => return (entries, rest)
      | ',' :: rest => readEntries? fuel depth entries rest
      | _ => none

end

/-- Reads past the end of a line: blanks, a comment, and the line end, unless the text ends. -/
def finishLine? (cs : Input) : Option Input := do
  match ← skipComment? (skipBlanks cs) with
  | [] => return []
  | cs => lineEnd? cs

/-- A document as far as it has been read: its table, and the way to the part of it that the next
lines add to. -/
structure Draft where
  root : Entries
  path : List String

/-- Reads a line that has something on it, in as many steps as `fuel` allows. -/
def readLine? (fuel : Nat) (draft : Draft) (cs : Input) : Option (Draft × Input) :=
  match cs with
  | '[' :: '[' :: rest => do
    let (path, key, rest) ← readKey? fuel rest
    let rest ← readMark? ']' (← readMark? ']' rest)
    return (⟨← draft.root.below? (Entries.appendTable? key) path, path ++ [key]⟩, rest)
  | '[' :: rest => do
    let (path, key, rest) ← readKey? fuel rest
    let rest ← readMark? ']' rest
    return (⟨← draft.root.below? (Entries.openTable? key) path, path ++ [key]⟩, rest)
  | _ => do
    let (path, key, rest) ← readKey? fuel cs
    let rest ← readMark? '=' rest
    let (value, rest) ← readValue? fuel depthLimit (skipBlanks rest)
    let root ← draft.root.below? (Entries.insert? key value path) draft.path
    return (⟨root, draft.path⟩, rest)

/-- Reads the lines of a document, each in as many steps as `steps` allows. -/
def readLines? (steps : Nat) : (fuel : Nat) → Draft → Input → Option Entries
  | 0, _, _ => none
  | fuel + 1, draft, cs => do
    match ← skipGap? false cs with
    | [] => return draft.root
    | cs =>
      let (draft, rest) ← readLine? steps draft cs
      readLines? steps fuel draft (← finishLine? rest)

/-- The table of a document, if it is well formed; a byte order mark may stand in front. -/
def parse? (text : String) : Option Entries :=
  let cs := match text.toList with
    | '\ufeff' :: rest => rest
    | cs => cs
  readLines? (2 * cs.length + 1) (cs.length + 1) ⟨[], []⟩ cs

end Scaffold.Toml
