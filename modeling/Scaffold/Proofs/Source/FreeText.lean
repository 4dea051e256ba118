import Mathlib.Data.List.Forall2
import Scaffold.Proofs.Source.Checks
import Scaffold.Proofs.Text.Alphabet
import Scaffold.Proofs.Validation.Accepted
import Scaffold.Settings.Basic
import Scaffold.Source.Emit

/-!
Server descriptions that differ in free text at most: in the name of the server, in descriptions, in
patterns, in the values of enums but not in their number, and in defaults of textual types. Their
generated sources come from the same checks in the same order.
-/

namespace Scaffold

/-- The strings of the settings hold no end of a line. -/
def Settings.OneLine (s : Settings) : Prop := ∀ e ∈ s.entries, Text.OneLine e.2

namespace Settings.OneLine

variable {s : Settings}

/-- The versions that a comment in Python names. -/
theorem pythonVersions (h : s.OneLine) :
    Text.OneLine (s.protocolVersion ++ (", Python SDK mcp==" ++ s.pythonSdkVersion)) := by
  have hversion : Text.OneLine s.protocolVersion := h ("protocol_version", _) (by simp [entries])
  have hsdk : Text.OneLine s.pythonSdkVersion := h ("python_sdk_version", _) (by simp [entries])
  have hname : Text.OneLine ", Python SDK mcp==" := Text.oneLine_of_all (by decide)
  exact hversion.append (hname.append hsdk)

/-- The requirement on pydantic as a comment in Python quotes it. -/
theorem pydantic (h : s.OneLine) : Text.OneLine (s.pydanticRequirement ++ "\"") := by
  have hpydantic : Text.OneLine s.pydanticRequirement := h ("pydantic_version_spec", _) (by simp [entries])
  have hquote : Text.OneLine "\"" := Text.oneLine_of_all (by decide)
  exact hpydantic.append hquote

/-- The versions that a comment in TypeScript names. -/
theorem typeScriptVersions (h : s.OneLine) :
    Text.OneLine (s.protocolVersion ++ (", TypeScript SDK @modelcontextprotocol/sdk@" ++
      (s.typeScriptSdkVersion ++ (", zod@" ++ s.zodVersion)))) := by
  have hversion : Text.OneLine s.protocolVersion := h ("protocol_version", _) (by simp [entries])
  have hsdk : Text.OneLine s.typeScriptSdkVersion := h ("typescript_sdk_version", _) (by simp [entries])
  have hzod : Text.OneLine s.zodVersion := h ("zod_version", _) (by simp [entries])
  have hsdkName : Text.OneLine ", TypeScript SDK @modelcontextprotocol/sdk@" :=
    Text.oneLine_of_all (by decide)
  have hzodName : Text.OneLine ", zod@" := Text.oneLine_of_all (by decide)
  exact hversion.append (hsdkName.append (hsdk.append (hzodName.append hzod)))

end Settings.OneLine

/-- Constraints on parameters of one type that differ in free text at most. Two defaults of a textual
type may differ as `free` says; all other defaults are equal. -/
structure Constraints.SameShape (free : DefaultValue → DefaultValue → Prop) (type : ParamType)
    (c d : Constraints) : Prop where
  minLength : c.minLength = d.minLength
  maxLength : c.maxLength = d.maxLength
  pattern : c.pattern.isSome = d.pattern.isSome
  minimum : c.minimum = d.minimum
  maximum : c.maximum = d.maximum
  allowed : c.allowed.map List.length = d.allowed.map List.length
  default : Option.Rel (fun v w => v = w ∨ type.isTextual = true ∧ free v w) c.default d.default
  required : c.required = d.required

/-- Parameters that differ in free text at most. Absent constraints are empty ones. -/
structure Parameter.SameShape (free : DefaultValue → DefaultValue → Prop) (p q : Parameter) :
    Prop where
  identifier : p.identifier = q.identifier
  type : p.type = q.type
  constraints : (p.constraints.getD {}).SameShape free p.type (q.constraints.getD {})

/-- Tools that differ in free text at most. -/
structure Tool.SameShape (free : DefaultValue → DefaultValue → Prop) (t u : Tool) : Prop where
  identifier : t.identifier = u.identifier
  parameters : List.Forall₂ (Parameter.SameShape free) t.parameters u.parameters

/-- Servers that differ in free text at most. -/
structure Server.SameShape (free : DefaultValue → DefaultValue → Prop) (a b : Server) : Prop where
  language : a.language = b.language
  tools : List.Forall₂ (Tool.SameShape free) a.tools b.tools

/-- The default of a parameter that keeps the rules suits its type. -/
theorem Parameter.Valid.suits [Pattern.SizeLimit] {limits : Limits} {p : Parameter} (h : p.Valid limits)
    {v : DefaultValue} (hv : v ∈ (p.constraints.getD {}).default) : ∃ c, v.Suits c p.type := by
  cases hc : p.constraints with
  | none =>
    rw [hc] at hv
    cases hv
  | some c =>
    rw [hc] at hv
    exact ⟨c, (h.consistent c hc).default_suits v hv⟩

namespace Parameter

section

variable {free : DefaultValue → DefaultValue → Prop} {p q : Parameter}

/-- An optional value on both sides makes at most one item on both sides. -/
theorem forall₂_toList {α β : Type} {S : α → α → Prop} {R : β → β → Prop} {x y : Option α}
    {f : α → β} (h : Option.Rel S x y) (hf : ∀ a b, S a b → R (f a) (f b)) :
    List.Forall₂ R (x.map f).toList (y.map f).toList := by
  cases h with
  | none => exact .nil
  | some h => exact .cons (hf _ _ h) .nil

theorem forall₂_toList_self {α β : Type} {R : β → β → Prop} {x : Option α} {f : α → β}
    (h : ∀ a, R (f a) (f a)) : List.Forall₂ R (x.map f).toList (x.map f).toList :=
  List.forall₂_same.mpr fun b hb => by
    obtain ⟨a, -, rfl⟩ := Option.map_eq_some_iff.mp (Option.mem_toList.mp hb)
    exact h a

theorem rel_of_isSome {α : Type} {R : α → α → Prop} {x y : Option α} (h : x.isSome = y.isSome)
    (hR : ∀ a ∈ x, ∀ b ∈ y, R a b) : Option.Rel R x y := by
  cases x <;> cases y <;> try cases h
  · exact .none
  · exact .some (hR _ rfl _ rfl)

section Groups

variable {type : ParamType} {c d : Constraints} {R : Check → Check → Prop}
  (hc : c.SameShape free type d)
  (hsame : ∀ k : Check, (∀ x, k ≠ .pattern x) → (∀ v, k ≠ .default v) → R k k)

include hc hsame

theorem forall₂_textChecks (hpattern : ∀ x ∈ c.pattern, ∀ y ∈ d.pattern, R (.pattern x) (.pattern y)) :
    List.Forall₂ R (textChecks c) (textChecks d) := by
  unfold textChecks
  rw [← hc.minLength, ← hc.maxLength]
  refine List.rel_append (List.rel_append (forall₂_toList_self fun n => ?_)
    (forall₂_toList_self fun n => ?_)) ?_
  · exact hsame _ (by simp) (by simp)
  · exact hsame _ (by simp) (by simp)
  · exact forall₂_toList (rel_of_isSome hc.pattern hpattern) fun _ _ hR => hR

theorem forall₂_boundChecks : List.Forall₂ R (boundChecks c) (boundChecks d) := by
  unfold boundChecks
  rw [← hc.minimum, ← hc.maximum]
  refine List.rel_append (forall₂_toList_self fun x => ?_) (forall₂_toList_self fun x => ?_)
  · exact hsame _ (by simp) (by simp)
  · exact hsame _ (by simp) (by simp)

/-- A default stands on both sides or on neither, and the leave to omit the value does so without one. -/
theorem forall₂_omissionChecks (hdefault : ∀ v ∈ c.default, ∀ w,
      v = w ∨ type.isTextual = true ∧ free v w → R (.default v) (.default w)) :
    List.Forall₂ R (omissionChecks c) (omissionChecks d) := by
  have hd := hc.default
  unfold omissionChecks
  rw [← hc.required]
  cases hcd : c.default <;> cases hdd : d.default <;> rw [hcd, hdd] at hd
  · dsimp only
    split
    · exact .cons (hsame _ (by simp) (by simp)) .nil
    · exact .nil
  · cases hd
  · cases hd
  · cases hd with
    | some hd => exact .cons (hdefault _ hcd _ hd) .nil

end Groups

/-- The checks of two parameters are the same but for the patterns and the defaults. A relation on
checks holds along them if it holds of those and of each other check with itself. -/
theorem SameShape.forall₂_checks (h : p.SameShape free q) {R : Check → Check → Prop}
    (hpattern : p.type.isStringLike = true → ∀ x ∈ (p.constraints.getD {}).pattern,
      ∀ y ∈ (q.constraints.getD {}).pattern, R (.pattern x) (.pattern y))
    (hdefault : ∀ v ∈ (p.constraints.getD {}).default, ∀ w,
      v = w ∨ p.type.isTextual = true ∧ free v w → R (.default v) (.default w))
    (hsame : ∀ k : Check, (∀ x, k ≠ .pattern x) → (∀ v, k ≠ .default v) → R k k) :
    List.Forall₂ R p.checks q.checks := by
  obtain ⟨-, htype, hc⟩ := h
  unfold checks
  rw [← htype]
  have hformat : List.Forall₂ R (formatChecks p.type) (formatChecks p.type) := by
    refine List.forall₂_same.mpr fun k hk => hsame k ?_ ?_ <;>
      · rintro x rfl
        cases ht : p.type <;> simp [formatChecks, ht] at hk
  refine List.rel_append (List.rel_append (List.rel_append ?_ hformat) ?_)
    (forall₂_omissionChecks hc hsame hdefault)
  · split
    · next ht => exact forall₂_textChecks hc hsame (hpattern ht)
    · exact .nil
  · split
    · exact forall₂_boundChecks hc hsame
    · exact .nil

/-- A pattern is checked for types that take text only. -/
theorem isStringLike_of_mem_checks {x : String} (h : .pattern x ∈ p.checks) :
    p.type.isStringLike = true := by
  by_contra hs
  unfold checks at h
  generalize p.constraints.getD {} = c at *
  have hformat : Check.pattern x ∉ formatChecks p.type := by cases p.type <;> simp [formatChecks]
  have hbound : Check.pattern x ∉ boundChecks c := by simp [boundChecks]
  have homit : Check.pattern x ∉ omissionChecks c := by
    unfold omissionChecks
    split
    · simp
    · split <;> simp
  simp only [List.mem_append, if_neg hs, List.not_mem_nil, false_or] at h
  rcases h with (h | h) | h
  · exact hformat h
  · split at h
    · exact hbound h
    · cases h
  · exact homit h

/-- The default that is checked is the one of the constraints. -/
theorem default_of_mem_checks {v : DefaultValue} (h : .default v ∈ p.checks) :
    v ∈ (p.constraints.getD {}).default := by
  unfold checks at h
  generalize p.constraints.getD {} = c at *
  -- The checks of other kinds hold no default, so it is among the last ones.
  have htext : Check.default v ∉ textChecks c := by simp [textChecks]
  have hformat : Check.default v ∉ formatChecks p.type := by cases p.type <;> simp [formatChecks]
  have hbound : Check.default v ∉ boundChecks c := by simp [boundChecks]
  have homit : Check.default v ∈ omissionChecks c := by
    simp only [List.mem_append] at h
    rcases h with ((h | h) | h) | h
    · split at h
      · exact absurd h htext
      · cases h
    · exact absurd h hformat
    · split at h
      · exact absurd h hbound
      · cases h
    · exact h
  unfold omissionChecks at homit
  cases hd : c.default with
  | none =>
    rw [hd] at homit
    dsimp only at homit
    split at homit <;> simp at homit
  | some w =>
    rw [hd] at homit
    simp only [List.mem_singleton, Check.default.injEq] at homit
    rw [homit]
    rfl

end

end Parameter

/-- Texts that are as many can be written one beside the other. -/
theorem forall₂_map_of_length_eq {α β : Type} {R : β → β → Prop} {f : α → β}
    (h : ∀ a b, R (f a) (f b)) {as bs : List α} (hlen : as.length = bs.length) :
    List.Forall₂ R (as.map f) (bs.map f) := by
  rw [List.forall₂_map_left_iff, List.forall₂_map_right_iff]
  exact List.forall₂_of_length_eq_of_get hlen fun _ _ _ => h _ _

section

variable {free : DefaultValue → DefaultValue → Prop}

/-- Two lists of allowed values are both empty or both not. -/
theorem Constraints.SameShape.rel_alternatives {type : ParamType} {c d : Constraints}
    (h : c.SameShape free type d) :
    Option.Rel (fun vs ws => vs.length = ws.length) c.alternatives d.alternatives := by
  have ha := h.allowed
  unfold Constraints.alternatives
  rcases hc : c.allowed with _ | (_ | ⟨v, vs⟩) <;> rcases hd : d.allowed with _ | (_ | ⟨w, ws⟩) <;>
    rw [hc, hd] at ha <;> simp at ha ⊢
  exact ha

theorem Parameter.alternatives_eq (p : Parameter) :
    p.alternatives = if p.type = .enum then (p.constraints.getD {}).alternatives else none := by
  unfold alternatives
  cases p.constraints <;> rfl

theorem Parameter.SameShape.rel_alternatives {p q : Parameter} (h : p.SameShape free q) :
    Option.Rel (fun vs ws => vs.length = ws.length) p.alternatives q.alternatives := by
  rw [p.alternatives_eq, q.alternatives_eq, ← h.type]
  split
  · exact h.constraints.rel_alternatives
  · exact .none

/-- Parameters that keep the rules stand one beside the other. -/
theorem Tool.SameShape.forall₂_parameters [Pattern.SizeLimit] {t u : Tool} (h : t.SameShape free u)
    {limits : Limits} (ht : t.Valid limits) : List.Forall₂ (fun p q => p.Valid limits ∧ p.SameShape free q)
      t.parameters u.parameters :=
  (List.forall₂_and_left _ _).mpr ⟨ht.parameters_valid, h.parameters⟩

/-- Tools that keep the rules stand one beside the other. -/
theorem Server.SameShape.forall₂_tools [Pattern.SizeLimit] {a b : Server} (h : a.SameShape free b)
    {limits : Limits} (ha : a.Valid limits) :
    List.Forall₂ (fun t u => t.Valid limits ∧ t.SameShape free u) a.tools b.tools :=
  (List.forall₂_and_left _ _).mpr ⟨ha.tools_valid, h.tools⟩

/-- The names of the parameters are the same. -/
theorem Tool.SameShape.parameterIdentifiers {t u : Tool} (h : t.SameShape free u) :
    t.parameterIdentifiers = u.parameterIdentifiers := by
  rw [Tool.parameterIdentifiers, Tool.parameterIdentifiers, ← List.forall₂_eq_eq_eq,
    List.forall₂_map_left_iff, List.forall₂_map_right_iff]
  exact h.parameters.imp fun _ _ hp => hp.identifier

end

/-- Every language takes over the identifiers of the parameters. -/
theorem Tool.paramNames_declare (l : Language) (t : Tool) :
    (t.declare l).paramNames = t.parameterIdentifiers := by
  simp only [Tool.declare, ToolDecl.paramNames, Tool.parameterIdentifiers, List.map_map]
  cases l <;> rfl

/-- Tools that differ in free text at most have the same names in every language. -/
theorem Tool.SameShape.paramNames_declare {free : DefaultValue → DefaultValue → Prop} {t u : Tool}
    (h : t.SameShape free u) (l : Language) :
    (u.declare l).paramNames = (t.declare l).paramNames := by
  rw [Tool.paramNames_declare, Tool.paramNames_declare, h.parameterIdentifiers]

/-- Whether a tool takes parameters shows in their names. -/
theorem ToolDecl.hasParams_eq (t : ToolDecl) : t.hasParams = !t.paramNames.isEmpty := by
  simp only [ToolDecl.hasParams, ToolDecl.paramNames, List.isEmpty_map]

theorem Tool.SameShape.hasParams_declare {free : DefaultValue → DefaultValue → Prop} {t u : Tool}
    (h : t.SameShape free u) (l : Language) :
    (u.declare l).hasParams = (t.declare l).hasParams := by
  rw [ToolDecl.hasParams_eq, ToolDecl.hasParams_eq, h.paramNames_declare l]

/-- Each name of a tool that keeps the rules is an identifier. -/
theorem Tool.Valid.isIdentifier_paramNames [Pattern.SizeLimit] {limits : Limits} {t : Tool}
    (h : t.Valid limits) (l : Language) : ∀ n ∈ (t.declare l).paramNames, Text.IsIdentifier n := by
  rw [t.paramNames_declare l]
  intro n hn
  obtain ⟨p, hp, rfl⟩ := List.mem_map.mp hn
  exact (h.parameters_valid p hp).bindable.isIdentifier

/-- A small server that has the text wherever it may have free text. -/
def Server.saying (language : Language) (text : String) : Server where
  name := text
  description := text
  language := language
  tools := [{
    name := "greet"
    description := text
    parameters := [
      { name := "mood", type := .enum, description := text
        constraints := some { allowed := some [text], default := some (.string text) } },
      { name := "count", type := .integer, description := text
        constraints := some { default := some (.number (.natural 2)) } }] }]

/-- What such servers say is all that tells one from another. -/
theorem Server.saying_sameShape (language : Language) {free : DefaultValue → DefaultValue → Prop}
    {x y : String} (h : free (.string x) (.string y)) :
    (saying language x).SameShape free (saying language y) := by
  refine ⟨rfl, .cons ⟨rfl, .cons ⟨rfl, rfl, ?_⟩ (.cons ⟨rfl, rfl, ?_⟩ .nil)⟩ .nil⟩
  · exact ⟨rfl, rfl, rfl, rfl, rfl, rfl, .some (.inr ⟨rfl, h⟩), rfl⟩
  · exact ⟨rfl, rfl, rfl, rfl, rfl, rfl, .some (.inl rfl), rfl⟩

/-- The settings that are used unless others are given. -/
theorem Settings.oneLine_default : ({} : Settings).OneLine := by
  have hall : (({} : Settings).entries.all fun e => e.2.toList.all fun c => !Text.isLineEnd c) = true := by
    decide
  exact fun e he => Text.oneLine_of_all (List.all_eq_true.mp hall e he)

end Scaffold
