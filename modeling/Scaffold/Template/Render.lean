import Scaffold.Number.Reading
import Scaffold.Server.Description
import Scaffold.Template.Basic

namespace Scaffold.Template

/-- Where a path leads. -/
inductive Target where
  | found (value : Json)
  | missing
  /-- The path asks a list for an item by something that is no position. -/
  | invalid

/-- The value a path leads to from a value. -/
def follow : List String → Json → Target
  | [], value => .found value
  | name :: rest, value =>
    match value with
    | .object members =>
      match members.lookup name with
      | some v => follow rest v
      | none => .missing
    | .array items =>
      if name.toList.all Char.isDigit && !name.isEmpty then
        match items[digitsValue name.toList]? with
        | some v => follow rest v
        | none => .missing
      else .invalid
    | _ => .missing

/-- What a template can see: the current value, and the variables of the innermost repeated block.
-/
structure Scope where
  value : Json
  locals : List (String × Json)

/-- The value a path leads to in a scope. -/
def Scope.find (scope : Scope) (path : Path) : Target :=
  if path.isLocal then follow path.names (.object scope.locals) else follow path.names scope.value

/-- Whether a number counts as true: zero does not, and neither do the numbers so near to zero that
the format holds them with fewer digits. -/
def isTrueNumber : JsonNumber → Bool
  | .natural n => n != 0
  | .negative .. => true
  | .fraction _ m => 2 ^ 52 ≤ m.significand

/-- Whether a value counts as true. -/
def isTrue : Json → Bool
  | .null => false
  | .bool b => b
  | .number n => isTrueNumber n
  | .string s => !s.isEmpty
  | .array items => !items.isEmpty
  | .object members => !members.isEmpty

mutual

/-- The text of a value in a rendered template. -/
def shown : Json → String
  | .null => ""
  | .bool b => boolText b
  | .number n => n.text
  | .string s => s
  | .array items => "[" ++ ", ".intercalate (shownItems items) ++ "]"
  | .object _ => "[object]"

/-- The texts of the items of a list. -/
def shownItems : List Json → List String
  | [] => []
  | item :: rest => shown item :: shownItems rest

end

/-- The scope of an item of a list. -/
def itemScope (length : Nat) (index : Nat) (item : Json) : Scope where
  value := item
  locals := [
    ("index", .ofNat index),
    ("first", .bool (index == 0)),
    ("last", .bool (index + 1 == length))]

/-- The scope of a member of an object. -/
def memberScope (length : Nat) (index : Nat) (member : String × Json) : Scope where
  value := member.2
  locals := [
    ("key", .string member.1),
    ("first", .bool (index == 0)),
    ("last", .bool (index + 1 == length))]

/-- The scopes that a block is repeated in, if the value is a list or an object. -/
def scopes? : Json → Option (List Scope)
  | .array items => some (items.mapIdx (itemScope items.length))
  | .object members => some (members.mapIdx (memberScope members.length))
  | _ => none

/-- The texts joined, if all of them are there. -/
def concat? : List (Option String) → Option String
  | [] => some ""
  | none :: _ => none
  | some s :: rest => (concat? rest).map (s ++ ·)

/-- The text of a repeated block where a path leads: `body` for the scope of each item. A value
without items is an error unless the block has other text to show then. -/
def repeated (body : Scope → Option String) (otherwise : Option (Option String)) :
    Target → Option String
  | .invalid => none
  | .missing => otherwise.getD none
  | .found v =>
    match scopes? v, otherwise with
    | none, other => other.getD none
    | some [], some other => other
    | some scopes, _ => concat? (scopes.map body)

mutual

/-- The text of a part in a scope. -/
def renderPart : Part → Scope → Option String
  | .text s, _ => some s
  | .value path, scope =>
    match scope.find path with
    | .found v => some (shown v)
    | _ => none
  | .choice path yes no, scope =>
    match scope.find path with
    | .found v => if isTrue v then renderParts yes scope else renderParts no scope
    | .missing => renderParts no scope
    | .invalid => none
  | .each path body none, scope => repeated (renderParts body) none (scope.find path)
  | .each path body (some other), scope =>
    repeated (renderParts body) (some (renderParts other scope)) (scope.find path)
  | .unknown, _ => none

/-- The text of parts in a scope. -/
def renderParts : List Part → Scope → Option String
  | [], _ => some ""
  | part :: rest, scope => do
    let s ← renderPart part scope
    let t ← renderParts rest scope
    return s ++ t

end

/-- The text of a template for a value, if nothing that it shows is missing. -/
def render? (parts : List Part) (value : Json) : Option String := renderParts parts ⟨value, []⟩

end Scaffold.Template
