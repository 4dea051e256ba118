import Scaffold.Pattern.Meaning

/-!
An estimate of how big the automaton of a pattern gets, which stands in for the compiler of patterns
where the program is run. What is proved of all patterns holds for every `SizeLimit` and knows
nothing of this one.

Every step of a repetition has states of its own, so repetitions inside repetitions multiply. A
state takes 32 bytes, and four more for each state that it leads to besides the first. Patterns are
matched in both directions; the classes are counted as in the automaton that reads backwards, which
is the bigger one, and a class given by a property is taken for a small one.
-/

namespace Scaffold.Pattern

/-- What the size of an automaton depends on. -/
inductive Shape where
  /-- No states at all. -/
  | nothing
  /-- States of this size that take no character. -/
  | place (size : Nat)
  /-- States of this size that take characters. -/
  | characters (size : Nat)
  | repetition (least : Nat) (most : Option Nat) (body : Shape)
  | capture (body : Shape)
  | sequence (items : List Shape)
  | choice (branches : List Shape)

namespace Shape

/-- The size of a state. -/
def state : Nat := 32

/-- The size of a state that leads to several others. -/
def fork (branches : Nat) : Nat := state + 4 * branches

mutual

/-- Whether the automaton can take nothing but the empty text. -/
def takesNothing : Shape → Bool
  | nothing | place _ => true
  | characters _ => false
  | repetition _ most body => most == some 0 || body.takesNothing
  | capture body => body.takesNothing
  | sequence items => allTakeNothing items
  | choice branches => allTakeNothing branches

/-- Whether all of several automata can take nothing but the empty text. -/
def allTakeNothing : List Shape → Bool
  | [] => true
  | s :: rest => s.takesNothing && allTakeNothing rest

end

/-- The size of a repetition of a body of the given size. -/
def repeated (size least : Nat) : (most : Option Nat) → Nat
  | none => max least 1 * size + fork 2
  | some most => least * size + (most - least) * (size + fork 2) + state

mutual

/-- The size of an automaton. A body that takes nothing is repeated once at most. -/
def size : Shape → Nat
  | nothing => 0
  | place n | characters n => n
  | repetition least most body =>
    if body.takesNothing then repeated body.size (min least 1) (some (min 1 (most.getD 1)))
    else if most = some 0 then 0
    else if least = 1 ∧ most = some 1 then body.size
    else repeated body.size least most
  | capture body => body.size + 2 * state
  | sequence items => sizes items
  | choice branches => sizes branches + fork branches.length + state

/-- The size of several automata together. -/
def sizes : List Shape → Nat
  | [] => 0
  | s :: rest => s.size + sizes rest

end

end Shape

/-- The size of a class that holds no more than a few ranges. -/
def smallClassSize : Nat := 2 * Shape.state + 8

/-- The size of the class of any character but a few. -/
def anyCharacterSize : Nat := 1000

/-- The size of a class with an escape of its own. -/
def Shorthand.size : Shorthand → Nat
  | digit => 5116
  | space => 680
  | word => 49836

mutual

/-- The size of a class. -/
def ClassSet.size (mode : Mode) : ClassSet → Nat
  | literal _ | named _ _ | property false _ => smallClassSize
  | property true _ => anyCharacterSize
  | range _ last => if last.char.toNat < 0x80 then smallClassSize else anyCharacterSize
  | shorthand _ s => if mode.unicode then s.size else smallClassSize
  | bracketed negated set => if negated then set.size mode + anyCharacterSize else set.size mode
  | union items => sizes mode items
  | operation _ left right => max (left.size mode) (right.size mode)

/-- The size of several classes together. -/
def ClassSet.sizes (mode : Mode) : List ClassSet → Nat
  | [] => 0
  | set :: rest => set.size mode + sizes mode rest

end

/-- The shape of an atom. -/
def Atom.shape (mode : Mode) : Atom → Shape
  | literal l =>
    if mode.ignoreCase && (l.char.isAlpha || 0x80 ≤ l.char.toNat) then .characters smallClassSize
    else .characters (Shape.state * l.char.utf8Size)
  | dot => .characters anyCharacterSize
  | assertion _ => .place Shape.state
  | shorthand negated s => .characters ((ClassSet.shorthand negated s).size mode)
  | property negated p => .characters ((ClassSet.property negated p).size mode)

mutual

/-- The shape of a pattern in a mode, and the mode after it. -/
def Ast.shape (mode : Mode) : Ast → Shape × Mode
  | atom a => (a.shape mode, mode)
  | bracket negated set => (.characters ((ClassSet.bracketed negated set).size mode), mode)
  | flags changes => (.nothing, mode.apply changes)
  | repetition least most body =>
    let (s, after) := body.shape mode
    (.repetition least most s, after)
  | group captures changes body =>
    let (s, _) := body.shape (mode.apply changes)
    (if captures then .capture s else s, mode)
  | sequence items =>
    let (ss, after) := shapes mode items
    (.sequence ss, after)
  | choice branches =>
    let (ss, after) := shapes mode branches
    (.choice ss, after)

/-- The shapes of several patterns, each in the mode that the one before leaves. -/
def Ast.shapes (mode : Mode) : List Ast → List Shape × Mode
  | [] => ([], mode)
  | a :: rest =>
    let (s, mode) := a.shape mode
    let (ss, mode) := shapes mode rest
    (s :: ss, mode)

end

/-- The limit that the program is run with. -/
instance estimate : SizeLimit where
  admits a := (a.shape {}).1.size ≤ sizeLimit

end Scaffold.Pattern
