namespace Scaffold.Pattern

/-- The characters still to be read. -/
abbrev Input := List Char

/-- A character of a pattern. -/
structure Literal where
  char : Char
  /-- Whether it is written as a byte, by `\x` and two digits. -/
  isByte : Bool
deriving DecidableEq, Repr

/-- A place in the text between two characters. -/
inductive Assertion where
  | lineStart
  | lineEnd
  | textStart
  | textEnd
  | wordBoundary
  | noWordBoundary
  | wordStart
  | wordEnd
  | wordStartHalf
  | wordEndHalf
deriving DecidableEq, Repr

/-- A class with an escape of its own. -/
inductive Shorthand where
  | digit
  | space
  | word
deriving DecidableEq, Repr

/-- A class given by a property of characters. -/
inductive Property where
  | named (name : String)
  | valued (name value : String)
deriving DecidableEq, Repr

/-- A part of a pattern that is no group and repeats nothing. -/
inductive Atom where
  | literal (l : Literal)
  | dot
  | assertion (a : Assertion)
  | shorthand (negated : Bool) (s : Shorthand)
  | property (negated : Bool) (p : Property)
deriving DecidableEq, Repr

/-- An operation on two sets of characters. -/
inductive SetOperation where
  | intersection
  | difference
  | symmetricDifference
deriving DecidableEq, Repr

/-- What stands between the brackets of a class. -/
inductive ClassSet where
  | literal (l : Literal)
  | range (first last : Literal)
  | named (negated : Bool) (name : String)
  | shorthand (negated : Bool) (s : Shorthand)
  | property (negated : Bool) (p : Property)
  | bracketed (negated : Bool) (set : ClassSet)
  | union (items : List ClassSet)
  | operation (o : SetOperation) (left right : ClassSet)

/-- A way of matching that can be switched inside a pattern. -/
inductive Flag where
  | ignoreCase
  | multiLine
  | dotMatchesLineEnd
  | swapGreed
  | unicode
  | carriageReturn
  | ignoreSpace
deriving DecidableEq, Repr

/-- A flag switched on or off. -/
structure FlagChange where
  flag : Flag
  on : Bool
deriving DecidableEq, Repr

/-- A pattern. -/
inductive Ast where
  | atom (a : Atom)
  | bracket (negated : Bool) (set : ClassSet)
  /-- Flags switched from here to the end of the group. -/
  | flags (changes : List FlagChange)
  | repetition (least : Nat) (most : Option Nat) (body : Ast)
  | group (captures : Bool) (changes : List FlagChange) (body : Ast)
  | sequence (items : List Ast)
  | choice (branches : List Ast)

/-- The value that the last switch of a flag leaves it with. -/
def flagAfter (flag : Flag) (before : Bool) (changes : List FlagChange) : Bool :=
  changes.foldl (fun on change => if change.flag = flag then change.on else on) before

namespace Ast

/-- Items one after the other. -/
def inSequence : List Ast → Ast
  | [item] => item
  | items => sequence items

/-- Branches to choose from. -/
def inChoice : List Ast → Ast
  | [branch] => branch
  | branches => choice branches

end Ast

/-- The union of items, which is the item itself if there is only one. -/
def ClassSet.inUnion : List ClassSet → ClassSet
  | [item] => item
  | items => union items

mutual

/-- How deep brackets, unions and operations nest in a class. -/
def ClassSet.depth : ClassSet → Nat
  | .bracketed _ set => 1 + set.depth
  | .union [] => 0
  | .union (item :: items) => 1 + max item.depth (depths items)
  | .operation _ left right => 1 + max left.depth right.depth
  | _ => 0

/-- The greatest depth of several classes. -/
def ClassSet.depths : List ClassSet → Nat
  | [] => 0
  | set :: rest => max set.depth (depths rest)

end

mutual

/-- How deep the parts of a pattern nest. -/
def Ast.depth : Ast → Nat
  | .atom _ | .flags _ => 0
  | .bracket _ set => 1 + set.depth
  | .repetition _ _ body => 1 + body.depth
  | .group _ _ body => 1 + body.depth
  | .sequence [] => 0
  | .sequence (item :: items) => 1 + max item.depth (depths items)
  | .choice branches => 1 + depths branches

/-- The greatest depth of several patterns. -/
def Ast.depths : List Ast → Nat
  | [] => 0
  | a :: rest => max a.depth (depths rest)

end

end Scaffold.Pattern
