import Scaffold.Pattern.Estimate
import Scaffold.Proofs.Source.Agreement

namespace Scaffold

/-- Whether the schema of a parameter takes a missing value: its chain ends in a default or in the leave
to omit the value. -/
def TypeScript.mayOmit (p : Parameter) : Bool :=
  (fragment p).parts.getLast?.any fun piece => ["default", "optional"].contains (callOf piece)

/-- Whether the model of a parameter takes a missing value: its field has a default, or its type is
optional. -/
def Python.mayOmit (p : Parameter) : Bool :=
  ((fragment p).parts.any fun piece => keywordOf piece == "default") ||
    "Optional[".toList.isPrefixOf (declare p).typeToken.toList

/-- A chain of calls ends in a call for omission if it has one. -/
theorem TypeScript.any_getLast?_calls (type : ParamType) (c : Constraints) :
    ((calls type c).getLast?.any fun piece => ["default", "optional"].contains (callOf piece)) =
      (omissionCall? type c).isSome := by
  rw [calls]
  cases homission : omissionCall? type c with
  | some piece =>
    rw [Option.toList_some, List.getLast?_concat, Option.any_some, Option.isSome_some]
    unfold omissionCall? at homission
    split at homission
    · cases homission
      rw [callOf_defaultCall]
      decide
    · rw [Option.ite_none_right_eq_some] at homission
      rw [← Option.some.inj homission.2]
      decide
  | none =>
    have hothers := (inOrder_checkCalls type c).forall_mem
      (q := fun name => !(["default", "optional"].contains name)) (by decide)
    rw [Option.toList_none, List.append_nil, Option.isSome_none, Bool.eq_false_iff]
    intro hany
    obtain ⟨piece, hpiece, hname⟩ := (Option.any_eq_true _ _).mp hany
    have hother := hothers _ (List.mem_map_of_mem (List.mem_of_getLast? hpiece))
    rw [hname] at hother
    cases hother

theorem TypeScript.isSome_omissionCall? (type : ParamType) (c : Constraints) :
    (omissionCall? type c).isSome = true ↔ c.default.isSome = true ∨ c.required = some false := by
  unfold omissionCall?
  cases c.default with
  | some v => exact iff_of_true rfl (.inl rfl)
  | none =>
    dsimp only
    split
    · next hrequired => exact iff_of_true rfl (.inr hrequired)
    · next hrequired => exact iff_of_false Bool.false_ne_true fun h => h.elim Bool.false_ne_true hrequired

/-- A schema takes a missing value if the parameter has a default or is not required. -/
theorem TypeScript.mayOmit_iff (p : Parameter) :
    mayOmit p = true ↔ ∃ c ∈ p.constraints, c.default.isSome = true ∨ c.required = some false := by
  unfold mayOmit fragment
  cases p.constraints with
  | none =>
    dsimp only
    rw [← calls_empty, any_getLast?_calls, isSome_omissionCall?]
    simp
  | some c =>
    dsimp only
    rw [any_getLast?_calls, isSome_omissionCall?]
    simp

/-- Among field arguments there is one for the default if there is a default. -/
theorem Python.any_arguments (type : ParamType) (c : Constraints) :
    ((arguments type c).any fun piece => keywordOf piece == "default") = c.default.isSome := by
  have hothers := (inOrder_checkArguments type c).forall_mem
    (q := fun name => !(name == "default")) (by decide)
  have hchecks : ∀ piece ∈ (if type.isStringLike then textArguments c else []) ++
      (if type.isNumeric then boundArguments c else []), ¬(keywordOf piece == "default") = true := by
    intro piece hpiece hkeyword
    have hother := hothers _ (List.mem_map_of_mem hpiece)
    rw [hkeyword] at hother
    cases hother
  rw [arguments, List.any_append, List.any_eq_false.mpr hchecks, Bool.false_or, defaultArguments]
  cases c.default with
  | none => rfl
  | some v =>
    simp only [Option.map_some, Option.toList_some, List.any_cons, List.any_nil, Bool.or_false,
      Option.isSome_some]
    rw [keywordOf_append (by decide)]
    decide

/-- No type of a parameter is optional. -/
theorem Python.isPrefixOf_typeToken (p : Parameter) :
    "Optional[".toList.isPrefixOf (declare p).typeToken.toList = false := by
  simp only [declare, fragment, Fragment.resolve]
  cases p.alternatives with
  | none => cases p.type <;> decide
  | some values =>
    simp only [Option.map_some, Option.getD_some, literalType, String.append_assoc, String.toList_append]
    rfl

/-- A model takes a missing value if the parameter has a default. -/
theorem Python.mayOmit_iff (p : Parameter) :
    mayOmit p = true ↔ ∃ c ∈ p.constraints, c.default.isSome = true := by
  rw [mayOmit, isPrefixOf_typeToken, Bool.or_false, fragment]
  cases p.constraints with
  | none => simp
  | some c => simp [any_arguments]

/-- The two languages agree on whether a caller may leave a parameter out, unless the parameter is not
required and has no default: then TypeScript takes a missing value, while Python, which does not look
at the demand, refuses it. -/
theorem mayOmit_eq_iff (p : Parameter) :
    TypeScript.mayOmit p = Python.mayOmit p ↔
      ¬∃ c ∈ p.constraints, c.required = some false ∧ c.default = none := by
  rw [Bool.eq_iff_iff, TypeScript.mayOmit_iff, Python.mayOmit_iff]
  cases p.constraints with
  | none => simp
  | some c =>
    cases hv : c.default with
    | none => simp [hv]
    | some v => simp [hv]

/-- A truth value that is not required. -/
def Parameter.omissible : Parameter where
  name := "all"
  type := .boolean
  description := "a flag"
  constraints := some { required := some false }

/-- A server with this parameter only. -/
def Server.withOmissible : Server where
  name := "server"
  description := "flags"
  language := .typeScript
  tools := [{ name := "list", description := "a tool", parameters := [.omissible] }]

/-- So the two languages do not agree on every parameter that validation lets pass. -/
theorem not_forall_mayOmit_eq :
    ¬ ∀ s : Server, s.Accepted → ∀ t ∈ s.tools, ∀ p ∈ t.parameters,
      TypeScript.mayOmit p = Python.mayOmit p := by
  intro h
  have heq := h Server.withOmissible ⟨{}, by rfl⟩ _ List.mem_cons_self _ List.mem_cons_self
  have hscript : TypeScript.mayOmit .omissible = true := by decide
  have hpython : Python.mayOmit .omissible = false := by decide
  rw [hscript, hpython] at heq
  cases heq

end Scaffold
