import Scaffold.Keyed
import Scaffold.Number.Binary64

/-!
The tree that a TOML document builds up. A table remembers how it came about, since that decides
what later lines may add to it.
-/

namespace Scaffold.Toml

/-- A value that has none inside it. -/
inductive Leaf where
  | string (s : String)
  | integer (n : Int)
  | float (x : Binary64)
  | boolean (b : Bool)
  /-- A date, a time, or both, as it is written. -/
  | moment (text : String)
deriving DecidableEq

/-- How a table came about. -/
inductive Standing where
  /-- It was named on the way to another table by a header. -/
  | implied
  /-- It has a header of its own. -/
  | opened
  /-- It was named on the way to a value by a dotted key. -/
  | dotted
  /-- It was written between braces and is complete. -/
  | closed
deriving DecidableEq, Repr

/-- A value of a document. -/
inductive Node where
  | leaf (value : Leaf)
  | list (items : List Node)
  | table (standing : Standing) (entries : List (String × Node))
  /-- Tables with one header repeated for each of them. -/
  | tables (items : List (List (String × Node)))

/-- The entries of a table: keys with their values. -/
abbrev Entries := List (String × Node)

namespace Entries

/-- The entries with one more; no key may come twice. -/
def add? (key : String) (value : Node) (entries : Entries) : Option Entries :=
  match entries.lookup key with
  | none => some (Keyed.put key value entries)
  | some _ => none

/-- The list with its last item changed by `f`; an empty list has none. -/
def changeLast? (f : Entries → Option Entries) (items : List Entries) : Option (List Entries) := do
  let last ← items.getLast?
  return items.dropLast ++ [← f last]

/-- The entries with a value under a dotted key, whose last name is `key`. The tables on the way may
only be ones that dotted keys have made; a table that a header has implied may be passed through,
but the value may not land in it. -/
def insert? (key : String) (value : Node) : (path : List String) → Entries → Option Entries
  | [], entries => add? key value entries
  | name :: path, entries =>
    match entries.lookup name with
    | none => do
      let inner ← insert? key value path []
      return Keyed.put name (.table .dotted inner) entries
    | some (.table .dotted inner) => do
      let inner ← insert? key value path inner
      return Keyed.put name (.table .dotted inner) entries
    | some (.table .implied inner) =>
      if path.isEmpty then none
      else do
        let inner ← insert? key value path inner
        return Keyed.put name (.table .implied inner) entries
    | some (.tables items) =>
      if path.isEmpty then none
      else do
        let items ← changeLast? (insert? key value path) items
        return Keyed.put name (.tables items) entries
    | some _ => none

/-- The entries changed by `f` at the table that the names of a header lead to; missing tables on
the way are implied. -/
def below? (f : Entries → Option Entries) : (path : List String) → Entries → Option Entries
  | [], entries => f entries
  | name :: path, entries =>
    match entries.lookup name with
    | none => do
      let inner ← below? f path []
      return Keyed.put name (.table .implied inner) entries
    | some (.table .closed _) => none
    | some (.table standing inner) => do
      let inner ← below? f path inner
      return Keyed.put name (.table standing inner) entries
    | some (.tables items) => do
      let items ← changeLast? (below? f path) items
      return Keyed.put name (.tables items) entries
    | some _ => none

/-- The entries with a table opened under a key: a new one, or one that was only implied so far. -/
def openTable? (key : String) (entries : Entries) : Option Entries :=
  match entries.lookup key with
  | none => some (Keyed.put key (.table .opened []) entries)
  | some (.table .implied inner) => some (Keyed.put key (.table .opened inner) entries)
  | some _ => none

/-- The entries with one more table behind those with the same repeated header. -/
def appendTable? (key : String) (entries : Entries) : Option Entries :=
  match entries.lookup key with
  | none => some (Keyed.put key (.tables [[]]) entries)
  | some (.tables items) => some (Keyed.put key (.tables (items ++ [[]])) entries)
  | some _ => none

end Entries

end Scaffold.Toml
