import Scaffold.Json.Skip

/-!
Records read from JSON. A record is read from an object by the names of its fields or from a list by
their order. A field of an object may come once; unknown keys are read past.
-/

namespace Scaffold.Json

/-- A reader of values of one type. `fuel` bounds the steps, `depth` is how many levels deeper the
value may go. -/
abbrev Decoder (α : Type) := (fuel depth : Nat) → Input → Except Problem (α × Input)

/-- The problem of a value of the wrong kind: its own problem, if it has one. -/
def mismatch (wanted : String) (cs : Input) : Problem :=
  match cs with
  | [] => .endOfValue
  | '[' :: _ => .wrongKind .sequence wanted
  | '\x7b' :: _ => .wrongKind .map wanted
  | _ =>
    match readScalar cs with
    | .error problem => problem
    | .ok (.null, _) => .wrongKind .null wanted
    | .ok (.bool b, _) => .wrongKind (.bool b) wanted
    | .ok (.string s, _) => .wrongKind (.string s) wanted
    | .ok (.number (.natural n), _) => .wrongKind (.integer n.toNat) wanted
    | .ok (.number (.negative n _), _) => .wrongKind (.integer (-n)) wanted
    | .ok (.number (.fraction negative m), _) => .wrongKind (.fraction negative m) wanted
    | .ok _ => .noValue

/-- Reads a string. -/
def aString : Decoder String := fun _ _ cs =>
  match skipSpace cs with
  | '"' :: rest => readString rest
  | cs => .error (mismatch "a string" cs)

/-- Reads `true` or `false`. -/
def aBool : Decoder Bool := fun _ _ cs =>
  match skipSpace cs with
  | 't' :: rest => do return (true, ← readWord ['r', 'u', 'e'] rest)
  | 'f' :: rest => do return (false, ← readWord ['a', 'l', 's', 'e'] rest)
  | cs => .error (mismatch "a boolean" cs)

/-- Reads a number of any kind. -/
def aNumber (wanted : String) : Decoder JsonNumber := fun _ _ cs =>
  match skipSpace cs with
  | [] => .error .endOfValue
  | c :: rest =>
    if c = '-' then readNumber true rest
    else if c.isDigit then readNumber false (c :: rest)
    else .error (mismatch wanted (c :: rest))

/-- Reads a natural number below `2^64`, called `wanted` in problems. -/
def aNatural (wanted : String) : Decoder UInt64 := fun fuel depth cs => do
  match ← aNumber wanted fuel depth cs with
  | (.natural n, rest) => return (n, rest)
  | (.negative n _, _) => throw (.wrongValue (.integer (-n)) wanted)
  | (.fraction negative m, _) => throw (.wrongKind (.fraction negative m) wanted)

/-- Reads a floating point number. -/
def aBinary64 : Decoder Binary64 := fun fuel depth cs => do
  let (n, rest) ← aNumber "f64" fuel depth cs
  return (n.toBinary64, rest)

/-- Reads `null` as nothing, and all else by the given decoder. -/
def optional {α : Type} (decode : Decoder α) : Decoder (Option α) := fun fuel depth cs =>
  match skipSpace cs with
  | 'n' :: rest => do return (none, ← readWord ['u', 'l', 'l'] rest)
  | cs => do
    let (value, rest) ← decode fuel depth cs
    return (some value, rest)

/-- Reads the items of a list up to its closing bracket, each by `read`. -/
def listItems {α : Type} (read : Input → Except Problem (α × Input)) :
    (fuel : Nat) → (first : Bool) → Input → Except Problem (List α × Input)
  | 0, _, _ => .error .endOfValue
  | fuel + 1, first, cs => do
    let (more, rest) ← nextItem first cs
    if more then
      let (item, rest) ← read rest
      let (items, rest) ← listItems read fuel false rest
      return (item :: items, rest)
    else return ([], rest)

/-- Reads a list. -/
def aList {α : Type} (decode : Decoder α) : Decoder (List α) := fun fuel depth cs =>
  match skipSpace cs with
  | '[' :: rest => do
    let depth ← enter depth
    let (items, rest) ← listItems (decode fuel depth) fuel true rest
    return (items, ← closeList rest)
  | cs => .error (mismatch "a sequence" cs)

/-- Reads the name of a variant: a string, or an object with the name as its only key and `null`
under it. -/
def aVariant {α : Type} (ofName : String → Except Problem α) : Decoder α := fun _ depth cs =>
  match skipSpace cs with
  | [] => .error .endOfValue
  | '"' :: rest => do
    let (name, rest) ← readString rest
    return (← ofName name, rest)
  | '\x7b' :: rest => do
    let _ ← enter depth
    match skipSpace rest with
    | '"' :: rest =>
      let (name, rest) ← readString rest
      let value ← ofName name
      let rest ← readColon rest
      match skipSpace rest with
      | 'n' :: rest =>
        let rest ← readWord ['u', 'l', 'l'] rest
        match skipSpace rest with
        | [] => throw .endOfObject
        | '\x7d' :: rest => return (value, rest)
        | _ => throw .noValue
      | cs => throw (mismatch "unit" cs)
    | cs => throw (mismatch "variant identifier" cs)
  | _ => .error .noValue

/-- A field of a record of type `σ`: its key, whether it must be there, and how it is read into the
record. -/
structure Field (σ : Type) where
  name : String
  required : Bool
  decode : Decoder (σ → σ)

/-- A field whose value is read by `decode` and put into the record by `set`. -/
def field {σ α : Type} (name : String) (required : Bool) (decode : Decoder α)
    (set : α → σ → σ) : Field σ :=
  ⟨name, required, fun fuel depth cs => do
    let (value, rest) ← decode fuel depth cs
    return (set value, rest)⟩

/-- A record type as it is read: its name, its fields in order, and the record that has none of
them. -/
structure Shape (σ : Type) where
  name : String
  fields : List (Field σ)
  blank : σ

/-- Reads the fields of a record in order from a list, up to the end of the list or of the fields.
-/
def positionalFields {σ : Type} (shape : Shape σ) (fuel depth : Nat) :
    List (Field σ) → (index : Nat) → σ → Input → Except Problem (σ × Input)
  | [], _, record, cs => .ok (record, cs)
  | f :: rest, index, record, cs => do
    let (more, cs) ← nextItem (index = 0) cs
    if more then
      let (set, cs) ← f.decode fuel depth cs
      positionalFields shape fuel depth rest (index + 1) (set record) cs
    else if f.required then throw (.wrongLength index shape.name shape.fields.length)
    else positionalFields shape fuel depth rest (index + 1) record cs

/-- Reads the members of an object into the record, `seen` the fields that are there already. The
values in it may take `steps` steps each. -/
def namedFields {σ : Type} (shape : Shape σ) (steps depth : Nat) :
    (fuel : Nat) → (first : Bool) → (seen : List String) → σ → Input →
    Except Problem (σ × List String × Input)
  | 0, _, _, _, _ => .error .endOfValue
  | fuel + 1, first, seen, record, cs => do
    let (more, rest) ← nextKey first cs
    if more then
      let (key, rest) ← readString rest
      match shape.fields.find? (·.name == key) with
      | some f =>
        if seen.contains key then throw (.duplicateField key)
        else
          let rest ← readColon rest
          let (set, rest) ← f.decode steps depth rest
          namedFields shape steps depth fuel false (key :: seen) (set record) rest
      | none =>
        let rest ← readColon rest
        let rest ← skipValue steps rest
        namedFields shape steps depth fuel false seen record rest
    else return (record, seen, rest)

/-- Reads a record. -/
def aRecord {σ : Type} (shape : Shape σ) : Decoder σ := fun fuel depth cs =>
  match skipSpace cs with
  | '[' :: rest => do
    let depth ← enter depth
    let (record, rest) ← positionalFields shape fuel depth shape.fields 0 shape.blank rest
    return (record, ← closeList rest)
  | '\x7b' :: rest => do
    let depth ← enter depth
    let (record, seen, rest) ← namedFields shape fuel depth fuel true [] shape.blank rest
    match shape.fields.find? fun f => f.required && !seen.contains f.name with
    | some f => throw (.missingField f.name)
    | none => return (record, ← closeObject rest)
  | cs => .error (mismatch ("struct " ++ shape.name) cs)

end Scaffold.Json
