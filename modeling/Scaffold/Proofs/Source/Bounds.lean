import Scaffold.Pattern.Estimate
import Scaffold.Proofs.Number.Plain
import Scaffold.Proofs.Source.Agreement

namespace Scaffold

/-- The two bounds of a parameter. -/
inductive Bound where
  | lower
  | upper

namespace Bound

/-- The bound that constraints set, if they do. -/
def of : Bound → Constraints → Option Binary64
  | lower, c => c.minimum
  | upper, c => c.maximum

/-- The check that the bound comes to. -/
def check : Bound → Binary64 → Check
  | lower => .atLeast
  | upper => .atMost

/-- What stands before the number in a field argument of Python. -/
def argument : Bound → String
  | lower => "ge="
  | upper => "le="

/-- What stands before the number in a call on a schema. -/
def call : Bound → String
  | lower => ".gte("
  | upper => ".lte("

/-- The key of the bound in metadata. -/
def key : Bound → String
  | lower => "minimum"
  | upper => "maximum"

/-- What source shows as a bound of a parameter, in one of the three places. -/
inductive Shows (b : Bound) (p : Parameter) (token : String) : Prop
  | argument (h : b.argument ++ token ∈ (Python.fragment p).parts)
  | call (h : b.call ++ token ++ ")" ∈ (TypeScript.fragment p).parts)
  | metadata (h : (b.key, token) ∈ TypeScript.constraintEchoes (TypeScript.declare p).constraints)

variable {b : Bound} {p : Parameter} {x : Binary64} {token : String}

/-- A bound is checked exactly where the constraints of a numeric type set it. -/
theorem check_mem_checks_iff :
    b.check x ∈ p.checks ↔ p.type.isNumeric = true ∧ b.of (p.constraints.getD {}) = some x := by
  unfold Parameter.checks
  generalize p.constraints.getD {} = c
  have htext : b.check x ∉ if p.type.isStringLike then Parameter.textChecks c else [] := by
    split <;> cases b <;> simp [check, Parameter.textChecks]
  have hformat : b.check x ∉ Parameter.formatChecks p.type := by
    cases b <;> cases p.type <;> simp [check, Parameter.formatChecks]
  have homission : b.check x ∉ Parameter.omissionChecks c := by
    unfold Parameter.omissionChecks
    split
    · cases b <;> simp [check]
    · split <;> cases b <;> simp [check]
  have hbounds : b.check x ∈ Parameter.boundChecks c ↔ b.of c = some x := by
    cases b <;> simp [check, of, Parameter.boundChecks]
  simp only [List.mem_append, htext, hformat, homission, false_or, or_false]
  split
  · next hnumeric => rw [hbounds, hnumeric, eq_self, true_and]
  · next hnumeric => exact iff_of_false List.not_mem_nil fun h => hnumeric h.1

theorem key_mem_constraintEchoes_iff {c : Constraints} :
    (b.key, token) ∈ TypeScript.constraintEchoes c ↔ ∃ x, b.of c = some x ∧ token = x.text := by
  cases b <;> simp [key, of, TypeScript.constraintEchoes, eq_comm]

/-- A field argument that shows a bound comes from the check of this bound, for no other check has its
keyword. -/
theorem eq_check_of_keyword? {type : ParamType} {k : Check}
    (h : Python.keyword? type k = some (b.argument ++ token)) : ∃ x, k = b.check x ∧ token = x.text := by
  -- The keyword ends at the first equals sign, so two equal arguments have the same one.
  have hmark : '=' ∈ b.argument.toList := by cases b <;> decide
  have hother {before s : String} (hequals : '=' ∈ before.toList)
      (hne : Python.keywordOf before ≠ Python.keywordOf b.argument) : before ++ s ≠ b.argument ++ token := by
    intro heq
    have hname := congrArg Python.keywordOf heq
    rw [Python.keywordOf_append hequals, Python.keywordOf_append hmark] at hname
    exact hne hname
  have hsame {s : String} (heq : b.argument ++ s = b.argument ++ token) : token = s :=
    ((String.append_right_inj _).mp heq).symm
  cases k with
  | minLength | maxLength | pattern | default =>
    exact absurd (Option.some.inj h) (hother (by decide) (by cases b <;> decide))
  | email | url | whole | omissible => cases h
  | atLeast x =>
    cases b with
    | lower => exact ⟨x, rfl, hsame (Option.some.inj h)⟩
    | upper => exact absurd (Option.some.inj h) (hother (by decide) (by decide))
  | atMost x =>
    cases b with
    | lower => exact absurd (Option.some.inj h) (hother (by decide) (by decide))
    | upper => exact ⟨x, rfl, hsame (Option.some.inj h)⟩

/-- A call that shows a bound comes from the check of this bound, for no other check has its name. -/
theorem eq_check_of_call {type : ParamType} {k : Check}
    (h : TypeScript.call type k = b.call ++ token ++ ")") : ∃ x, k = b.check x ∧ token = x.text := by
  -- The name of a call ends at its bracket. What stands inside may be any literal.
  have hmark : '(' ∈ b.call.toList.drop 1 := by cases b <;> decide
  have hname : TypeScript.callOf (TypeScript.call type k) = TypeScript.callOf b.call := by
    rw [h, String.append_assoc, TypeScript.callOf_append hmark]
  have hother {before s after : String} (hbracket : '(' ∈ before.toList.drop 1)
      (hne : TypeScript.callOf before ≠ TypeScript.callOf b.call) :
      TypeScript.callOf (before ++ s ++ after) ≠ TypeScript.callOf b.call := by
    rwa [String.append_assoc, TypeScript.callOf_append hbracket]
  have hsame {s : String} (heq : b.call ++ s ++ ")" = b.call ++ token ++ ")") : token = s :=
    ((String.append_right_inj _).mp ((String.append_left_inj _).mp heq)).symm
  cases k with
  | minLength | maxLength | pattern => exact absurd hname (hother (by decide) (by cases b <;> decide))
  | email | url | whole | omissible =>
    dsimp only [TypeScript.call] at hname
    exact absurd hname (by cases b <;> decide)
  | default v =>
    have hdefault : TypeScript.callOf (TypeScript.call type (.default v)) = "default" :=
      TypeScript.callOf_defaultCall type v
    rw [hdefault] at hname
    exact absurd hname (by cases b <;> decide)
  | atLeast x =>
    cases b with
    | lower => exact ⟨x, rfl, hsame h⟩
    | upper => exact absurd hname (hother (by decide) (by decide))
  | atMost x =>
    cases b with
    | lower => exact absurd hname (hother (by decide) (by decide))
    | upper => exact ⟨x, rfl, hsame h⟩

/-- Whatever is shown as a bound is the text of the bound. -/
theorem Shows.eq_text (h : b.Shows p token) :
    ∃ x, b.of (p.constraints.getD {}) = some x ∧ token = x.text := by
  cases h with
  | argument h =>
    obtain ⟨k, hk, hpiece⟩ := Python.mem_parts_iff.mp h
    obtain ⟨x, rfl, htoken⟩ := eq_check_of_keyword? hpiece
    exact ⟨x, (check_mem_checks_iff.mp hk).2, htoken⟩
  | call h =>
    obtain ⟨k, hk, hpiece⟩ := TypeScript.mem_parts_iff.mp h
    obtain ⟨x, rfl, htoken⟩ := eq_check_of_call hpiece
    exact ⟨x, (check_mem_checks_iff.mp hk).2, htoken⟩
  | metadata h => exact key_mem_constraintEchoes_iff.mp h

/-- A bound of a numeric type is shown as a field argument and as a call. -/
theorem text_mem_parts (htype : p.type.isNumeric = true) (hx : b.of (p.constraints.getD {}) = some x) :
    b.argument ++ x.text ∈ (Python.fragment p).parts ∧
      b.call ++ x.text ++ ")" ∈ (TypeScript.fragment p).parts := by
  have hcheck := check_mem_checks_iff.mpr ⟨htype, hx⟩
  refine ⟨Python.mem_parts_iff.mpr ⟨_, hcheck, ?_⟩, TypeScript.mem_parts_iff.mpr ⟨_, hcheck, ?_⟩⟩
  · cases b <;> rfl
  · cases b <;> rfl

/-- Constraints that do not contradict the type have finite bounds. -/
theorem isFinite_of_consistent [Pattern.SizeLimit] {type : ParamType} {c : Constraints}
    (hc : c.Consistent type) (hx : b.of c = some x) : x.isFinite = true := by
  cases b with
  | lower => exact hc.minimum_finite x hx
  | upper => exact hc.maximum_finite x hx

end Bound

/-- Each bound of an accepted server is shown as one plain decimal. Whatever source shows as this bound, in
either language and for whatever type, is that decimal; the metadata always show it, and for a numeric type the
field argument and the call on the schema do too. -/
theorem Server.bounds_plain [Pattern.SizeLimit] {s : Server} (ha : s.Accepted) {t : Tool} (ht : t ∈ s.tools)
    {p : Parameter}
    (hp : p ∈ t.parameters) (b : Bound) {x : Binary64} (hx : b.of (p.constraints.getD {}) = some x) :
    ∃ token : String, token.toList ∈ plainDecimal.matches' ∧
      (∀ shown, b.Shows p shown → shown = token) ∧
      (b.key, token) ∈ TypeScript.constraintEchoes (TypeScript.declare p).constraints ∧
      (p.type.isNumeric = true → b.argument ++ token ∈ (Python.fragment p).parts ∧
        b.call ++ token ++ ")" ∈ (TypeScript.fragment p).parts) := by
  obtain ⟨limits, hs⟩ := ha.valid
  have hfinite : x.isFinite = true := by
    cases hc : p.constraints with
    | none =>
      rw [hc] at hx
      cases b <;> cases hx
    | some c =>
      rw [hc] at hx
      exact Bound.isFinite_of_consistent
        (((hs.tools_valid t ht).parameters_valid p hp).consistent c hc) hx
  refine ⟨x.text, x.text_mem_plainDecimal_iff.mpr hfinite, ?_, ?_, fun htype => ?_⟩
  · intro shown hshown
    obtain ⟨y, hy, rfl⟩ := hshown.eq_text
    rw [Option.some.inj (hy.symm.trans hx)]
  · -- The metadata do not ask for the type.
    exact Bound.key_mem_constraintEchoes_iff.mpr ⟨x, hx, rfl⟩
  · exact Bound.text_mem_parts htype hx

/-- A number between bounds that other layouts of numbers write with an exponent. -/
def Parameter.ranged : Parameter where
  name := "factor"
  type := .number
  constraints := some {
    minimum := some (.ofDecimal true 25 (-8))
    maximum := some (.ofDecimal false 1 23) }

/-- A server whose one parameter is this number. -/
def Server.ranged : Server where
  name := "server"
  description := "numbers"
  language := .typeScript
  tools := [{ name := "scale", description := "a tool", parameters := [Parameter.ranged] }]

/-- Both bounds are shown with all their zeros. -/
theorem Server.bounds_plain_ranged :
    Server.ranged.Accepted ∧
      ∃ least most : String, least = "-0.00000025" ∧ most = "100000000000000000000000" ∧
        least.toList ∈ plainDecimal.matches' ∧ most.toList ∈ plainDecimal.matches' ∧
        "ge=" ++ least ∈ (Python.fragment Parameter.ranged).parts ∧
        ".lte(" ++ most ++ ")" ∈ (TypeScript.fragment Parameter.ranged).parts := by
  have ha : Server.ranged.Accepted := ⟨{}, by decide +kernel⟩
  obtain ⟨least, hleast, hshown, -, hparts⟩ :=
    Server.bounds_plain ha List.mem_cons_self List.mem_cons_self .lower rfl
  obtain ⟨most, hmost, hshown', -, hparts'⟩ :=
    Server.bounds_plain ha List.mem_cons_self List.mem_cons_self .upper rfl
  have hl : "-0.00000025" = least := hshown _ (.metadata (by decide +kernel))
  have hm : "100000000000000000000000" = most := hshown' _ (.metadata (by decide +kernel))
  exact ⟨ha, least, most, hl.symm, hm.symm, hleast, hmost, (hparts rfl).1, (hparts' rfl).2⟩

end Scaffold
