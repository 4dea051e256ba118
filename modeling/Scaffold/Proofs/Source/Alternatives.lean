import Scaffold.Proofs.Text.LiteralList
import Scaffold.Source.Python
import Scaffold.Source.TypeScript

namespace Scaffold

open Text (literals? listFrame)

namespace Parameter

/-- Whether a parameter is an enum that names these values, of which there is at least one. -/
structure Lists (p : Parameter) (values : List String) : Prop where
  type_eq : p.type = .enum
  exists_allowed : ∃ c, p.constraints = some c ∧ c.allowed = some values
  ne_nil : values ≠ []

variable {p : Parameter} {values : List String}

theorem alternatives_eq_some_iff : p.alternatives = some values ↔ p.Lists values := by
  have hallowed (c : Constraints) : c.alternatives = some values ↔ c.allowed = some values ∧ values ≠ [] := by
    unfold Constraints.alternatives
    split
    · next v vs h =>
      rw [h]
      refine ⟨fun heq => ⟨heq, ?_⟩, fun heq => heq.1⟩
      rw [← Option.some.inj heq]
      exact List.cons_ne_nil v vs
    · next hnone =>
      refine ⟨nofun, fun ⟨heq, hne⟩ => ?_⟩
      obtain ⟨v, vs, rfl⟩ := List.exists_cons_of_ne_nil hne
      exact absurd heq (hnone v vs)
  unfold alternatives
  constructor
  · intro h
    rw [Option.ite_none_right_eq_some, Option.bind_eq_some_iff] at h
    obtain ⟨htype, c, hc, hvalues⟩ := h
    exact ⟨htype, ⟨c, hc, ((hallowed c).mp hvalues).1⟩, ((hallowed c).mp hvalues).2⟩
  · rintro ⟨htype, ⟨c, hc, hvalues⟩, hne⟩
    rw [if_pos htype, hc]
    exact (hallowed c).mpr ⟨hvalues, hne⟩

theorem alternatives_eq_none_iff : p.alternatives = none ↔ ∀ values, ¬p.Lists values := by
  rw [Option.eq_none_iff_forall_ne_some]
  exact forall_congr' fun values => not_congr alternatives_eq_some_iff

end Parameter

/-- The types of a parameter carry exactly the values that it lists. If it is an enum with values, the
type in Python, the schema and the type in TypeScript spell them in order, and outside the literals there
is only the frame of each list. Otherwise no type is overridden, and the types are the base types. -/
theorem alternatives_exact (p : Parameter) :
    (∀ values, p.Lists values →
      ∃ literalType schema,
        (Python.fragment p).typeOverride = some literalType ∧
        (Python.declare p).typeToken = literalType ∧
        literals? literalType = some (listFrame "Literal[" ", " "]" values.length, values) ∧
        (TypeScript.fragment p).typeOverride = some schema ∧
        (TypeScript.declare p).validator = schema ++ (TypeScript.fragment p).splice ∧
        literals? schema = some (listFrame "z.enum([" ", " "])" values.length, values) ∧
        literals? (TypeScript.declare p).typeToken = some (listFrame "" " | " "" values.length, values)) ∧
    ((∀ values, ¬p.Lists values) →
      (Python.fragment p).typeOverride = none ∧
      (Python.declare p).typeToken = Python.baseType p.type ∧
      (TypeScript.fragment p).typeOverride = none ∧
      (TypeScript.declare p).validator =
        TypeScript.baseSchema p.type ++ (TypeScript.fragment p).splice ∧
      (TypeScript.declare p).typeToken = TypeScript.baseType p.type) := by
  constructor
  · intro values hlists
    have halternatives := Parameter.alternatives_eq_some_iff.mpr hlists
    have hne := hlists.ne_nil
    have hpython : (Python.fragment p).typeOverride = some (Python.literalType values) := by
      rw [Python.fragment, halternatives, Option.map_some]
    have hschema : (TypeScript.fragment p).typeOverride = some (TypeScript.enumSchema values) := by
      rw [TypeScript.fragment, halternatives, Option.map_some]
    have hunion : (TypeScript.declare p).typeToken = "" ++ " | ".intercalate (quoteAll values) ++ "" := by
      rw [TypeScript.declare, halternatives, String.empty_append, String.append_empty]
    refine ⟨Python.literalType values, TypeScript.enumSchema values, hpython, ?_, ?_, hschema, ?_, ?_, ?_⟩
    · rw [Python.declare, Fragment.resolve, hpython, Option.getD_some]
    · exact Text.literals?_intercalate (by decide) (by decide) (by decide) hne
    · rw [TypeScript.declare, Fragment.resolve, hschema, Option.getD_some]
    · exact Text.literals?_intercalate (by decide) (by decide) (by decide) hne
    · rw [hunion]
      exact Text.literals?_intercalate (by decide) (by decide) (by decide) hne
  · intro hnone
    have halternatives := Parameter.alternatives_eq_none_iff.mpr hnone
    have hpython : (Python.fragment p).typeOverride = none := by
      rw [Python.fragment, halternatives, Option.map_none]
    have hschema : (TypeScript.fragment p).typeOverride = none := by
      rw [TypeScript.fragment, halternatives, Option.map_none]
    refine ⟨hpython, ?_, hschema, ?_, ?_⟩
    · rw [Python.declare, Fragment.resolve, hpython, Option.getD_none]
    · rw [TypeScript.declare, Fragment.resolve, hschema, Option.getD_none]
    · rw [TypeScript.declare, halternatives]

/-- Values that look like the frame of a list are spelled like any other. -/
theorem alternatives_exact_frames :
    literals? (TypeScript.declare {
        name := "unit"
        type := .enum
        constraints := some { allowed := some ["\" | \"", "], ", "a\nb"] } }).typeToken =
      some (["", " | ", " | ", ""], ["\" | \"", "], ", "a\nb"]) := by
  obtain ⟨_, _, -, -, -, -, -, -, hunion⟩ := (alternatives_exact {
    name := "unit"
    type := .enum
    constraints := some { allowed := some ["\" | \"", "], ", "a\nb"] } }).1 _
      ⟨rfl, ⟨_, rfl, rfl⟩, List.cons_ne_nil _ _⟩
  exact hunion

end Scaffold
