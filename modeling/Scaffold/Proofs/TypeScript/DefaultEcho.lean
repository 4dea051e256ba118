import Scaffold.Pattern.Estimate
import Scaffold.Proofs.Source.Default
import Scaffold.Proofs.Text.StringLiteral

namespace Scaffold

/-- The constraints without the default and the leave to omit the value. -/
def Constraints.withoutDefault (c : Constraints) : Constraints :=
  { c with default := none, required := none }

/-- Whether a default was entered as text. -/
def DefaultValue.isText : DefaultValue → Bool
  | string _ => true
  | _ => false

namespace TypeScript

/-- The entry behind the default, if there is one. -/
def requiredTail (c : Constraints) : String :=
  match c.required with
  | some b => ", required: " ++ boolText b
  | none => ""

/-- The literal that the metadata show for the default of a parameter, and the one that its validator
applies: what each of the two has that it would not have without the default. -/
structure ShowsDefault (p : Parameter) (c : Constraints) (echoed applied : String) : Prop where
  metadata : ∃ head,
    metadataEntry (declare { p with constraints := some c.withoutDefault }) = head ++ " \x7d" ∧
    metadataEntry (declare p) = head ++ ", default: " ++ echoed ++ requiredTail c ++ " \x7d"
  validator : (declare p).validator =
    (declare { p with constraints := some c.withoutDefault }).validator ++
      if p.type = .date then ".default(new Date(" ++ applied ++ "))" else ".default(" ++ applied ++ ")"

variable {p : Parameter} {c : Constraints} {v : DefaultValue}

/-- The validator has a literal by the type of the parameter, a quoted text or the text as it stands. -/
theorem literal_boolText (type : ParamType) (v : DefaultValue) :
    v.literal type boolText = if type.isTextual then Text.quote v.raw else v.raw := by
  unfold DefaultValue.literal
  split
  · rfl
  · split <;> rfl

/-- The metadata have a literal by the way the default was entered. -/
theorem echoDefault_eq (v : DefaultValue) :
    echoDefault v = if v.isText then Text.quote v.raw else v.raw := by
  cases v <;> rfl

/-- A quoted text is never the text: it is longer by the quotes at least. -/
theorem quote_ne (s : String) : Text.quote s ≠ s := by
  intro h
  have hbody := (Text.spells_flatMap_sourceChar s.toList).length_le
  have hlength := congrArg List.length (Text.toList_quote s)
  rw [h, List.length_cons, List.length_append, List.length_singleton] at hlength
  omega

/-- The default and the leave to omit the value come last among the constraints. -/
theorem constraintEchoes_eq (hv : c.default = some v) :
    constraintEchoes c = constraintEchoes c.withoutDefault ++ ("default", echoDefault v) ::
      (c.required.map fun b => ("required", boolText b)).toList := by
  have hdefault : c.withoutDefault.default = none := rfl
  have hrequired : c.withoutDefault.required = none := rfl
  simp only [constraintEchoes, hv, hdefault, hrequired, Option.map_some, Option.map_none,
    Option.toList_some, Option.toList_none, List.append_nil, List.append_assoc, List.singleton_append]
  rfl

theorem intercalate_defaultEntries (c : Constraints) (v : DefaultValue) :
    ", ".intercalate ((("default", echoDefault v) ::
      (c.required.map fun b => ("required", boolText b)).toList).map fun (k, v) => k ++ ": " ++ v) =
        "default: " ++ echoDefault v ++ requiredTail c := by
  unfold requiredTail
  cases c.required with
  | none =>
    rw [String.append_empty]
    rfl
  | some b =>
    simp only [Option.map_some, Option.toList_some, List.map_cons, List.map_nil,
      String.intercalate_cons_cons, String.intercalate_singleton, String.append_assoc]
    rfl

/-- The metadata with the default go on where those without it close. -/
theorem metadataEntry_withoutDefault (d : ParamDecl) (hc : d.constraints = c) (hv : c.default = some v) :
    ∃ head, metadataEntry { d with constraints := c.withoutDefault } = head ++ " \x7d" ∧
      metadataEntry d = head ++ ", default: " ++ echoDefault v ++ requiredTail c ++ " \x7d" := by
  refine ⟨"\x7b " ++ ", ".intercalate ((("type", Text.quote d.type.name) ::
    ("description", Text.quote d.description) :: constraintEchoes c.withoutDefault).map
      fun (k, v) => k ++ ": " ++ v), rfl, ?_⟩
  unfold metadataEntry
  dsimp only
  rw [hc, constraintEchoes_eq hv, ← List.cons_append, ← List.cons_append, List.map_append,
    String.intercalate_append_of_ne_nil (by exact List.cons_ne_nil _ _) (by exact List.cons_ne_nil _ _),
    intercalate_defaultEntries]
  simp only [String.append_assoc]
  rfl

/-- The default is the last call of the chain. -/
theorem calls_withoutDefault (type : ParamType) (hv : c.default = some v) :
    calls type c = calls type c.withoutDefault ++ [defaultCall type v] := by
  have homission : omissionCall? type c.withoutDefault = none := rfl
  rw [calls, calls, omissionCall?, hv, homission, Option.toList_none, List.append_nil]
  rfl

theorem validator_withoutDefault (hc : p.constraints = some c) (hv : c.default = some v) :
    (declare p).validator =
      (declare { p with constraints := some c.withoutDefault }).validator ++ defaultCall p.type v := by
  let bare : Parameter := { p with constraints := some c.withoutDefault }
  have halternatives : p.alternatives = bare.alternatives := by
    rw [Parameter.alternatives, Parameter.alternatives, hc]
    rfl
  have hparts : (fragment p).parts = (fragment bare).parts ++ [defaultCall p.type v] := by
    rw [fragment, hc]
    exact calls_withoutDefault p.type hv
  have hvalidator (q : Parameter) : (declare q).validator =
      (q.alternatives.map enumSchema).getD (baseSchema q.type) ++ String.join (fragment q).parts := rfl
  rw [hvalidator, hparts, halternatives, String.join_append, ← String.append_assoc, String.join_cons,
    String.join_nil, String.append_empty]
  rfl

theorem showsDefault_iff (hc : p.constraints = some c) (hv : c.default = some v) {echoed applied : String} :
    ShowsDefault p c echoed applied ↔ echoed = echoDefault v ∧ applied = v.literal p.type boolText := by
  have hconstraints : (declare p).constraints = c := by rw [declare, hc, Option.getD_some]
  obtain ⟨head, hbare, hfull⟩ := metadataEntry_withoutDefault (declare p) hconstraints hv
  have hsame : metadataEntry (declare { p with constraints := some c.withoutDefault }) = head ++ " \x7d" :=
    hbare
  have hvalidator := validator_withoutDefault hc hv
  constructor
  · rintro ⟨⟨head', hbare', hfull'⟩, hvalidator'⟩
    obtain rfl : head = head' := by rwa [hsame, String.append_left_inj] at hbare'
    rw [hfull, String.append_left_inj, String.append_left_inj, String.append_right_inj] at hfull'
    refine ⟨hfull'.symm, ?_⟩
    rw [hvalidator, String.append_right_inj, defaultCall] at hvalidator'
    split at hvalidator'
    · rw [String.append_left_inj, String.append_right_inj] at hvalidator'
      exact hvalidator'.symm
    · rw [String.append_left_inj, String.append_right_inj] at hvalidator'
      exact hvalidator'.symm
  · rintro ⟨rfl, rfl⟩
    exact ⟨⟨head, hsame, hfull⟩, hvalidator⟩

/-- The default in the metadata is the text of the default, quoted if it was entered as text; the default
in the validator is the same text, quoted if the type is textual. So the two are the same literal exactly
when text was entered for a textual type, or a number or a truth value for another one. -/
theorem default_echo_eq_iff (hc : p.constraints = some c) (hv : c.default = some v) :
    ∃ echoed applied, ShowsDefault p c echoed applied ∧
      (∀ e a, ShowsDefault p c e a → e = echoed ∧ a = applied) ∧
      echoed = (if v.isText then Text.quote v.raw else v.raw) ∧
      applied = (if p.type.isTextual then Text.quote v.raw else v.raw) ∧
      (echoed = applied ↔ v.isText = p.type.isTextual) := by
  refine ⟨echoDefault v, v.literal p.type boolText, (showsDefault_iff hc hv).mpr ⟨rfl, rfl⟩,
    fun e a h => (showsDefault_iff hc hv).mp h, echoDefault_eq v, literal_boolText p.type v, ?_⟩
  rw [echoDefault_eq, literal_boolText]
  have hne := quote_ne v.raw
  cases v.isText <;> cases p.type.isTextual <;> simp [hne, hne.symm]

/-- A default of a number that was entered as text is quoted in the metadata only. -/
theorem default_echo_eq_iff_numberText :
    ∃ echoed applied, ShowsDefault ⟨"", "factor", .number, "", some { default := some (.string "5") }⟩
        { default := some (.string "5") } echoed applied ∧
      echoed = "\"5\"" ∧ applied = "5" ∧ echoed ≠ applied := by
  obtain ⟨echoed, applied, hshows, -, hechoed, happlied, hiff⟩ :=
    default_echo_eq_iff (p := ⟨"", "factor", .number, "", some { default := some (.string "5") }⟩) rfl rfl
  refine ⟨echoed, applied, hshows, hechoed, happlied, fun h => ?_⟩
  cases hiff.mp h

/-- So validation lets defaults pass that the metadata and the validator show as different literals. -/
theorem not_forall_default_echo_eq :
    ¬ ∀ s : Server, s.Accepted → ∀ t ∈ s.tools, ∀ p ∈ t.parameters, ∀ c ∈ p.constraints,
      ∀ v ∈ c.default, ∀ echoed applied, ShowsDefault p c echoed applied → echoed = applied := by
  intro h
  have hshows := (showsDefault_iff (v := .string "5")
    (p := ⟨"", "factor", .number, "a number", some { default := some (.string "5") }⟩) rfl rfl).mpr
      ⟨rfl, rfl⟩
  have heq := h (.withDefault "5") ⟨{}, by rfl⟩ _ List.mem_cons_self _ List.mem_cons_self _ rfl _ rfl
    _ _ hshows
  exact absurd heq (by decide)

end TypeScript

end Scaffold
