import Scaffold.Pattern.Basic
import Scaffold.Pattern.Problem
import Scaffold.Pattern.Table.Property
import Scaffold.Pattern.Table.Script
import Scaffold.Pattern.Table.Value

namespace Scaffold.Pattern

/-- The characters of a name that count when names are compared. -/
def nameChars (cs : List Char) : List Char :=
  (cs.filter fun c => c.toNat < 0x80 && c ≠ ' ' && c ≠ '_' && c ≠ '-').map Char.toLower

/-- A name in the form in which names are compared: case, spaces, dashes and underscores do not
count, and neither does `is` in front. The name `isc` stays whole: it is the name of a property, not
that of the category `c`. -/
def looseName (name : String) : List Char :=
  match name.toList with
  | i :: s :: rest =>
    if i.toLower = 'i' ∧ s.toLower = 's' then
      let kept := nameChars rest
      if kept = ['c'] then ['i', 's', 'c'] else kept
    else nameChars (i :: s :: rest)
  | cs => nameChars cs

/-- Whether a name in loose form is one of the names. -/
def isAmong (loose : List Char) (names : List String) : Bool :=
  names.any fun name => looseName name == loose

/-- The properties whose values can be asked for, with the names of those values. -/
def valuedProperties : List (List String × List String) := [
  (["gc", "General_Category"], categoryNames),
  (["sc", "Script"], scriptNames),
  (["scx", "Script_Extensions"], scriptNames),
  (["age", "Age"], ageNames),
  (["GCB", "Grapheme_Cluster_Break"], graphemeBreakNames),
  (["WB", "Word_Break"], wordBreakNames),
  (["SB", "Sentence_Break"], sentenceBreakNames)]

/-- The short names that belong to a general category although they are names of a property too. -/
def categoryFirst : List (List Char) := [['c', 'f'], ['s', 'c'], ['l', 'c']]

/-- Checks a property that is asked for by one name: a property that characters have or have not, a
general category, or a script, in this order. -/
def checkNamed (loose : List Char) : Except Problem Unit :=
  let isProperty := !categoryFirst.contains loose
  if isProperty && isAmong loose booleanNames then .ok ()
  else if isProperty && isAmong loose (unusableNames ++ valuedProperties.flatMap Prod.fst) then
    .error .propertyUnknown
  else if isAmong loose (categoryNames ++ scriptNames) then .ok ()
  else if isAmong loose (emptyCategoryNames ++ emptyScriptNames) then .error .propertyValueUnknown
  else .error .propertyUnknown

/-- Checks a property that is asked for by its name and a value. -/
def checkValued (loose value : List Char) : Except Problem Unit :=
  match valuedProperties.find? fun (names, _) => isAmong loose names with
  | some (_, values) => if isAmong value values then .ok () else .error .propertyValueUnknown
  | none =>
    if isAmong loose (booleanNames ++ unusableNames) then .error .propertyValueUnknown
    else .error .propertyUnknown

/-- Checks that there is such a property. -/
def Property.check : Property → Except Problem Unit
  | named name => checkNamed (looseName name)
  | valued name value => checkValued (looseName name) (looseName value)

end Scaffold.Pattern
