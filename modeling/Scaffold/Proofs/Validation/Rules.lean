import Scaffold.Validation.Check

/-!
The rules of a server description, each said on its own: what a name, a constraint, a parameter, a
tool and a server have to be. Nothing here speaks of the order in which validation looks at a
description, of the names it has seen or of the checks it leaves out after a problem.
-/

namespace Scaffold

namespace Text

/-- A text that has to be there: it is not blank, and it is no longer than the limit. -/
structure Fits (limit : Nat) (s : String) : Prop where
  notBlank : ∃ c ∈ s.toList, isBlank c = false
  length_le : s.length ≤ limit

/-- A letter or an underscore, then letters, digits and marks. -/
def IsIdentifier (s : String) : Prop :=
  ∃ c rest, s.toList = c :: rest ∧ (identifierStart.contains c = true ∨ c = '_') ∧
    ∀ d ∈ rest, identifierContinue.contains d = true

/-- Four digits, two and two, with dashes between them. -/
def IsDateForm (s : String) : Prop :=
  ∃ a b c d e f g h, s.toList = [a, b, c, d, '-', e, f, '-', g, h] ∧
    ∀ x ∈ [a, b, c, d, e, f, g, h], decimalDigit.contains x = true

end Text

/-- An identifier that generated source can bind: it is no word of either language and no name that
generated source uses itself. -/
structure Bindable (identifier : String) : Prop where
  isIdentifier : Text.IsIdentifier identifier
  not_reserved : identifier ∉ reservedWords
  not_generated : identifier ∉ generatedNames

/-- The identifier that stands for a parameter in generated source. -/
def Parameter.identifier (p : Parameter) : String := Text.identifierOf p.name

/-- The identifier that stands for a tool in generated source. -/
def Tool.identifier (t : Tool) : String := Text.identifierOf t.name

/-- The identifiers of the parameters of a tool, in order. -/
def Tool.parameterIdentifiers (t : Tool) : List String := t.parameters.map Parameter.identifier

/-- The defaults that can be written as a literal of a type. Text of any kind may be a default of a
type that takes text; a default of an enum is one of its values. -/
inductive DefaultValue.Suits (c : Constraints) : ParamType → DefaultValue → Prop
  | text {type : ParamType} {v : DefaultValue} (h : type.isStringLike = true) : Suits c type v
  | number (n : JsonNumber) : Suits c .number (.number n)
  | numberText {s : String} (h : ∃ x, Binary64.read? (Text.trim s) = some x) :
    Suits c .number (.string s)
  | integer {n : JsonNumber} (h : n.isInteger = true) : Suits c .integer (.number n)
  | integerText {s : String} (h : ∃ n, readInteger? (Text.trim s) = some n) :
    Suits c .integer (.string s)
  | bool (b : Bool) : Suits c .boolean (.bool b)
  | boolText {s : String} (h : s = "true" ∨ s = "false") : Suits c .boolean (.string s)
  | date {s : String} (h : Text.IsDateForm s) : Suits c .date (.string s)
  | choice {v : DefaultValue} (h : ∀ values ∈ c.alternatives, v.raw ∈ values) : Suits c .enum v

/-- Constraints that contradict neither each other nor the type they stand with. The bounds are
compared as multiples of the least positive number. -/
structure Constraints.Consistent [Pattern.SizeLimit] (type : ParamType) (c : Constraints) : Prop where
  lengths_le : ∀ least ∈ c.minLength, ∀ most ∈ c.maxLength, least.toNat ≤ most.toNat
  minimum_finite : ∀ x ∈ c.minimum, x.isFinite = true
  maximum_finite : ∀ x ∈ c.maximum, x.isFinite = true
  bounds_le : ∀ least ∈ c.minimum, ∀ most ∈ c.maximum,
    ∀ m ∈ least.steps?, ∀ n ∈ most.steps?, m ≤ n
  pattern_ok : ∀ p ∈ c.pattern, Pattern.check p = .ok ()
  allowed_notBlank : ∀ values ∈ c.allowed, ∀ v ∈ values, ∃ x ∈ v.toList, Text.isBlank x = false
  default_suits : ∀ v ∈ c.default, v.Suits c type

/-- A parameter that keeps every rule which does not look at other parameters. -/
structure Parameter.Valid [Pattern.SizeLimit] (limits : Limits) (p : Parameter) : Prop where
  name_fits : Text.Fits limits.nameLength p.name
  bindable : Bindable p.identifier
  description_le : p.description.length ≤ limits.descriptionLength
  type_known : p.type ∈ ParamType.known
  enum_values : p.type = .enum → ∃ c ∈ p.constraints, ∃ v vs, c.allowed = some (v :: vs)
  consistent : ∀ c ∈ p.constraints, c.Consistent p.type

/-- The names that the handler of a tool uses besides its parameters: its local and the names of the
model and of the schema of the tool. -/
def handlerNames (tool : String) : List String := [handlerLocal, tool ++ "_params", tool ++ "_schema"]

/-- A tool that keeps every rule which does not look at other tools. -/
structure Tool.Valid [Pattern.SizeLimit] (limits : Limits) (t : Tool) : Prop where
  name_fits : Text.Fits limits.nameLength t.name
  bindable : Bindable t.identifier
  description_fits : Text.Fits limits.descriptionLength t.description
  parameters_le : t.parameters.length ≤ limits.parametersPerTool
  parameters_valid : ∀ p ∈ t.parameters, p.Valid limits
  parameters_nodup : t.parameterIdentifiers.Nodup
  parameters_apart : ∀ p ∈ t.parameters, p.identifier ∉ handlerNames t.identifier

/-- A server description that keeps all rules. -/
structure Server.Valid [Pattern.SizeLimit] (limits : Limits) (s : Server) : Prop where
  name_fits : Text.Fits limits.nameLength s.name
  description_fits : Text.Fits limits.descriptionLength s.description
  tools_ne_nil : s.tools ≠ []
  tools_le : s.tools.length ≤ limits.tools
  tools_valid : ∀ t ∈ s.tools, t.Valid limits
  tools_nodup : (s.tools.map Tool.identifier).Nodup
  tools_apart : ∀ t ∈ s.tools, ∀ owner ∈ s.tools,
    t.identifier ≠ owner.identifier ++ "_params" ∧ t.identifier ≠ owner.identifier ++ "_schema"

/-- A server description that validation lets pass under some limits. -/
def Server.Accepted [Pattern.SizeLimit] (s : Server) : Prop := ∃ limits, s.validate limits = .ok ()

end Scaffold
