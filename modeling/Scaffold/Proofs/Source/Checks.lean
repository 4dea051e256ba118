import Scaffold.Source.Python
import Scaffold.Source.TypeScript

/-!
What the validator of a parameter checks, in no language. The two translators are written apart from
each other; each of them comes to what it has for these checks, in their order: length, pattern, format,
bounds, and last the default or the leave to omit the value.
-/

namespace Scaffold

/-- One thing that the validator of a parameter checks or supplies. -/
inductive Check where
  | minLength (n : UInt64)
  | maxLength (n : UInt64)
  | pattern (p : String)
  | email
  | url
  | whole
  | atLeast (x : Binary64)
  | atMost (x : Binary64)
  | default (value : DefaultValue)
  | omissible
deriving DecidableEq

namespace Parameter

/-- The limits of length and the pattern of text without a format of its own. -/
def textChecks (c : Constraints) : List Check :=
  (c.minLength.map Check.minLength).toList ++ (c.maxLength.map Check.maxLength).toList ++
    (c.pattern.map Check.pattern).toList

/-- The format that a type demands. -/
def formatChecks : ParamType → List Check
  | .email => [.email]
  | .url => [.url]
  | .integer => [.whole]
  | _ => []

/-- The bounds of a number. -/
def boundChecks (c : Constraints) : List Check :=
  (c.minimum.map Check.atLeast).toList ++ (c.maximum.map Check.atMost).toList

/-- The default, or else the leave to omit the value. -/
def omissionChecks (c : Constraints) : List Check :=
  match c.default with
  | some v => [.default v]
  | none => if c.required = some false then [.omissible] else []

/-- The checks of a parameter. -/
def checks (p : Parameter) : List Check :=
  let c := p.constraints.getD {}
  (if p.type.isStringLike then textChecks c else []) ++ formatChecks p.type ++
    (if p.type.isNumeric then boundChecks c else []) ++ omissionChecks c

end Parameter

namespace Python

/-- The keyword argument of a check, for those that a field argument can express. -/
def keyword? (type : ParamType) : Check → Option String
  | .minLength n => some ("min_length=" ++ toString n.toNat)
  | .maxLength n => some ("max_length=" ++ toString n.toNat)
  | .pattern p => some ("regex=" ++ Text.quote p)
  | .atLeast x => some ("ge=" ++ x.text)
  | .atMost x => some ("le=" ++ x.text)
  | .default v => some ("default=" ++ v.literal type boolLiteral)
  | .email | .url | .whole | .omissible => none

/-- Empty constraints come to nothing. -/
theorem arguments_empty (type : ParamType) : arguments type {} = [] := by
  cases type <;> rfl

/-- A field argument stands for every check that one can express. -/
theorem parts_fragment (p : Parameter) :
    (fragment p).parts = p.checks.filterMap (keyword? p.type) := by
  have hformat : (Parameter.formatChecks p.type).filterMap (keyword? p.type) = [] := by
    cases p.type <;> rfl
  have htext (c : Constraints) :
      (Parameter.textChecks c).filterMap (keyword? p.type) = textArguments c := by
    unfold Parameter.textChecks textArguments
    cases c.minLength <;> cases c.maxLength <;> cases c.pattern <;> rfl
  have hbounds (c : Constraints) :
      (Parameter.boundChecks c).filterMap (keyword? p.type) = boundArguments c := by
    unfold Parameter.boundChecks boundArguments
    cases c.minimum <;> cases c.maximum <;> rfl
  have hdefault (c : Constraints) :
      (Parameter.omissionChecks c).filterMap (keyword? p.type) = defaultArguments p.type c := by
    unfold Parameter.omissionChecks defaultArguments
    cases c.default with
    | some v => rfl
    | none =>
      dsimp only
      split <;> rfl
  have hparts : (fragment p).parts = arguments p.type (p.constraints.getD {}) := by
    unfold fragment
    cases p.constraints with
    | none => exact (arguments_empty p.type).symm
    | some c => rfl
  simp only [hparts, arguments, Parameter.checks, List.filterMap_append,
    apply_ite (List.filterMap _), List.filterMap_nil, htext, hformat, hbounds, hdefault,
    List.append_nil]

theorem mem_parts_iff {p : Parameter} {part : String} :
    part ∈ (fragment p).parts ↔ ∃ k ∈ p.checks, keyword? p.type k = some part := by
  rw [parts_fragment]
  exact List.mem_filterMap

end Python

namespace TypeScript

/-- The call of a check, chained to a schema. -/
def call (type : ParamType) : Check → String
  | .minLength n => ".min(" ++ toString n.toNat ++ ")"
  | .maxLength n => ".max(" ++ toString n.toNat ++ ")"
  | .pattern p => ".regex(/" ++ Text.regexBody p ++ "/)"
  | .email => ".email()"
  | .url => ".url()"
  | .whole => ".int()"
  | .atLeast x => ".gte(" ++ x.text ++ ")"
  | .atMost x => ".lte(" ++ x.text ++ ")"
  | .default v => defaultCall type v
  | .omissible => ".optional()"

/-- Empty constraints leave the format of the type. -/
theorem calls_empty (type : ParamType) : calls type {} = (formatCall? type).toList := by
  cases type <;> rfl

/-- A call stands for every check. -/
theorem parts_fragment (p : Parameter) : (fragment p).parts = p.checks.map (call p.type) := by
  have htext (c : Constraints) :
      (Parameter.textChecks c).map (call p.type) = textCalls c := by
    unfold Parameter.textChecks textCalls
    cases c.minLength <;> cases c.maxLength <;> cases c.pattern <;> rfl
  have hformat : (Parameter.formatChecks p.type).map (call p.type) = (formatCall? p.type).toList := by
    cases p.type <;> rfl
  have hbounds (c : Constraints) : (Parameter.boundChecks c).map (call p.type) = boundCalls c := by
    unfold Parameter.boundChecks boundCalls
    cases c.minimum <;> cases c.maximum <;> rfl
  have homission (c : Constraints) :
      (Parameter.omissionChecks c).map (call p.type) = (omissionCall? p.type c).toList := by
    unfold Parameter.omissionChecks omissionCall?
    cases c.default with
    | some v => rfl
    | none =>
      dsimp only
      split <;> rfl
  have hparts : (fragment p).parts = calls p.type (p.constraints.getD {}) := by
    unfold fragment
    cases p.constraints with
    | none => exact (calls_empty p.type).symm
    | some c => rfl
  simp only [hparts, calls, Parameter.checks, List.map_append, apply_ite (List.map _),
    List.map_nil, htext, hformat, hbounds, homission]

theorem mem_parts_iff {p : Parameter} {part : String} :
    part ∈ (fragment p).parts ↔ ∃ k ∈ p.checks, call p.type k = part := by
  rw [parts_fragment]
  exact List.mem_map

end TypeScript

end Scaffold
