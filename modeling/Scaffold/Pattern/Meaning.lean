import Scaffold.Pattern.Lookup
import Scaffold.Pattern.Reader

namespace Scaffold.Pattern

/-- The flags that decide what a pattern means. Where Unicode is switched off it means bytes, and
then it may not match any that are no characters. -/
structure Mode where
  unicode : Bool := true
  ignoreCase : Bool := false

/-- The mode after some flags have been switched. -/
def Mode.apply (mode : Mode) (changes : List FlagChange) : Mode :=
  ⟨flagAfter .unicode mode.unicode changes, flagAfter .ignoreCase mode.ignoreCase changes⟩

/-- Checks that a class may be negated: where it means bytes, what is left would be no characters.
-/
def checkNegated (mode : Mode) (negated : Bool) : Except Problem Unit :=
  if negated && !mode.unicode then .error .invalidBytes else .ok ()

/-- Checks a character of a class. -/
def checkMember (mode : Mode) (l : Literal) : Except Problem Unit :=
  if mode.unicode || l.char.toNat < 0x80 then .ok ()
  else if l.isByte then .error .invalidBytes
  else .error .unicodeNotAllowed

/-- Checks a class given by a property. -/
def checkProperty (mode : Mode) (p : Property) : Except Problem Unit :=
  if mode.unicode then p.check else .error .unicodeNotAllowed

mutual

/-- Checks a class. -/
def checkClass (mode : Mode) : ClassSet → Except Problem Unit
  | .literal l => checkMember mode l
  | .range first last => do
    checkMember mode first
    checkMember mode last
  | .named negated _ | .shorthand negated _ => checkNegated mode negated
  | .property _ p => checkProperty mode p
  | .bracketed negated set => do
    checkClass mode set
    checkNegated mode negated
  | .union items => checkClasses mode items
  | .operation _ left right => do
    checkClass mode left
    checkClass mode right

/-- Checks several classes. -/
def checkClasses (mode : Mode) : List ClassSet → Except Problem Unit
  | [] => .ok ()
  | set :: rest => do
    checkClass mode set
    checkClasses mode rest

end

/-- Checks an atom. -/
def checkAtom (mode : Mode) : Atom → Except Problem Unit
  | .literal l =>
    if l.isByte && !mode.unicode && 0x80 ≤ l.char.toNat then .error .invalidBytes else .ok ()
  | .dot => if mode.unicode then .ok () else .error .invalidBytes
  | .assertion _ => .ok ()
  | .shorthand negated _ => checkNegated mode negated
  | .property _ p => checkProperty mode p

mutual

/-- Checks a pattern in a mode, and answers the mode after it. -/
def checkIn (mode : Mode) : Ast → Except Problem Mode
  | .atom a => do
    checkAtom mode a
    return mode
  | .bracket negated set => do
    checkClass mode set
    checkNegated mode negated
    return mode
  | .flags changes => .ok (mode.apply changes)
  | .repetition _ _ body => checkIn mode body
  | .group _ changes body => do
    let _ ← checkIn (mode.apply changes) body
    return mode
  | .sequence items => checkAllIn mode items
  | .choice branches => checkAllIn mode branches

/-- Checks several patterns, each in the mode that the one before leaves. -/
def checkAllIn (mode : Mode) : List Ast → Except Problem Mode
  | [] => .ok mode
  | a :: rest => do
    let after ← checkIn mode a
    checkAllIn after rest

end

/-- What the compiler of patterns says about sizes. How big the automaton of a pattern gets is up to
the way in which it is built, and nothing is taken for granted about it. -/
class SizeLimit where
  /-- Whether the automaton of a pattern takes `sizeLimit` bytes at most. -/
  admits : Ast → Bool

/-- Checks that a text is a pattern: it is well formed, it means something, and its automaton is not
too big. -/
def check [SizeLimit] (pattern : String) : Except Problem Unit := do
  let a ← read pattern
  let _ ← checkIn {} a
  if !SizeLimit.admits a then throw .tooBig

end Scaffold.Pattern
