import Scaffold.Pattern.Estimate
import Scaffold.Proofs.Python.LineEnds
import Scaffold.Proofs.Source.Default
import Scaffold.Proofs.TypeScript.LineEnds
import Scaffold.Proofs.TypeScript.RegexLiteral

/-!
Generated source without stray ends of lines. Validation reads the default of a number without the blanks
around it, and a pattern may hold any character, so two kinds of text in an accepted server can bring an end
of a line into its source. Nothing else can.
-/

namespace Scaffold

open Text

/-- Nothing that source shows of a parameter as it is holds a stray end of a line: neither the text that is
the default of a number nor, between the slashes of TypeScript, a pattern. -/
structure Parameter.RawClean (l : Language) (p : Parameter) : Prop where
  default : p.type.isNumeric = true → ∀ c ∈ p.constraints, ∀ s, c.default = some (.string s) → Clean s
  pattern : l = .typeScript → p.type.isStringLike = true →
    ∀ c ∈ p.constraints, ∀ x ∈ c.pattern, '\u0085' ∉ x.toList

namespace Parameter

variable {p : Parameter}

theorem pattern_mem_checks {c : Constraints} {x : String} (htype : p.type.isStringLike = true)
    (hc : p.constraints = some c) (hx : c.pattern = some x) : Check.pattern x ∈ p.checks := by
  simp [checks, hc, htype, textChecks, hx]

/-- The pattern that is checked is the one of the constraints. -/
theorem pattern_of_mem_checks {x : String} (h : .pattern x ∈ p.checks) :
    ∃ c ∈ p.constraints, c.pattern = some x := by
  have htype := isStringLike_of_mem_checks h
  have hformat : Check.pattern x ∉ formatChecks p.type := by cases p.type <;> simp [formatChecks]
  have homit (c : Constraints) : Check.pattern x ∉ omissionChecks c := by
    unfold omissionChecks
    split
    · simp
    · split <;> simp
  have hnumeric : p.type.isNumeric = false := by
    rw [Bool.eq_false_iff]
    intro hnumeric
    have htext := ParamType.isTextual_of_isNumeric hnumeric
    rw [ParamType.isTextual_of_isStringLike htype] at htext
    cases htext
  simp only [checks, htype, hnumeric, if_true, Bool.false_eq_true, if_false, List.mem_append, hformat,
    homit, List.not_mem_nil, or_false] at h
  cases hc : p.constraints with
  | none =>
    rw [hc] at h
    simp [textChecks] at h
  | some c =>
    rw [hc] at h
    refine ⟨c, rfl, ?_⟩
    simpa [textChecks] using h

end Parameter

/-- A default that is shown as it is is clean unless it is the text of a number. -/
theorem DefaultValue.Suits.clean_raw {c : Constraints} {type : ParamType} {v : DefaultValue}
    (h : v.Suits c type) (htext : type.isTextual = false)
    (hstring : type.isNumeric = true → ∀ s, v = .string s → Clean s) : Clean v.raw := by
  cases h with
  | text hlike =>
    rw [ParamType.isTextual_of_isStringLike hlike] at htext
    cases htext
  | number n => exact clean_of_numberText n.numberText_text
  | numberText => exact hstring rfl _ rfl
  | @integer n => exact clean_of_numberText n.numberText_text
  | integerText => exact hstring rfl _ rfl
  | bool b => cases b <;> decide
  | boolText hword => rcases hword with rfl | rfl <;> decide
  | date => cases htext
  | choice => cases htext

/-- The checks of a parameter that keeps the rules show what its constraints hold. -/
theorem Parameter.Valid.rawClean_checks [Pattern.SizeLimit] {limits : Limits} {p : Parameter}
    (h : p.Valid limits) (l : Language) : (∀ k ∈ p.checks, k.RawClean l p.type) ↔ p.RawClean l := by
  constructor
  · refine fun hchecks => ⟨fun htype c hc s hs => ?_, fun hl htype c hc x hx => ?_⟩
    · exact hchecks _ (default_mem_checks hc hs) (ParamType.isTextual_of_isNumeric htype)
    · exact hchecks _ (pattern_mem_checks htype hc hx) hl
  · intro hp k hk
    cases k with
    | default v =>
      intro htext
      have hv := default_of_mem_checks hk
      obtain ⟨c, hsuits⟩ := h.suits hv
      refine hsuits.clean_raw htext fun htype s hs => ?_
      cases hc : p.constraints with
      | none =>
        rw [hc] at hv
        cases hv
      | some d =>
        rw [hc] at hv
        exact hp.default htype d hc s (hs ▸ hv)
    | pattern x =>
      intro hl
      obtain ⟨c, hc, hx⟩ := pattern_of_mem_checks hk
      exact hp.pattern hl (isStringLike_of_mem_checks hk) c hc x hx
    | _ => trivial

theorem Tool.Valid.tidy_declare [Pattern.SizeLimit] {limits : Limits} {t : Tool} (h : t.Valid limits)
    (l : Language) :
    (t.declare l).Tidy where
  name := h.bindable.isIdentifier
  names := h.isIdentifier_paramNames l
  tokens := by
    refine List.forall_mem_map.mpr fun p _ => ?_
    cases l with
    | python => exact Python.clean_typeToken p
    | typeScript => exact TypeScript.clean_typeToken p

/-- The source of a server that validation lets pass is clean if the validators in it are. -/
theorem Server.Accepted.clean_emit [Pattern.SizeLimit] {s : Server} (h : s.Accepted) {settings : Settings}
    (hsettings : ∀ e ∈ settings.entries, Clean e.2) :
    Clean (s.emit settings) ↔
      ∀ t ∈ s.tools, ∀ p ∈ t.parameters, Clean (s.language.declare p).validator := by
  obtain ⟨limits, hs⟩ := h.valid
  have htidy : ∀ t ∈ s.toModule.tools, t.Tidy :=
    List.forall_mem_map.mpr fun t ht => (hs.tools_valid t ht).tidy_declare s.language
  have hprint : Clean (s.emit settings) ↔
      ∀ t ∈ s.toModule.tools, ∀ p ∈ t.params, Clean p.validator := by
    unfold emit
    cases s.language with
    | python => exact Python.clean_print hsettings htidy
    | typeScript => exact TypeScript.clean_print hsettings htidy
  rw [hprint, toModule, moduleIn, List.forall_mem_map]
  refine forall₂_congr fun t _ => ?_
  rw [Tool.declare, List.forall_mem_map]

/-- The source of a server that validation lets pass holds no stray end of a line, unless the text that is
the default of a number holds one or, in TypeScript, a pattern holds a next line. -/
theorem Server.clean_emit_iff [Pattern.SizeLimit] {s : Server} (h : s.Accepted) {settings : Settings}
    (hsettings : ∀ e ∈ settings.entries, Clean e.2) :
    Clean (s.emit settings) ↔ ∀ t ∈ s.tools, ∀ p ∈ t.parameters, p.RawClean s.language := by
  obtain ⟨limits, hs⟩ := h.valid
  rw [h.clean_emit hsettings]
  refine forall₂_congr fun t ht => forall₂_congr fun p hp => ?_
  rw [← ((hs.tools_valid t ht).parameters_valid p hp).rawClean_checks]
  cases s.language with
  | python => exact Python.clean_validator p
  | typeScript => exact TypeScript.clean_validator p

/-- Spaces around a number do no harm, but a carriage return behind one and a next line in a pattern do. -/
theorem Server.clean_emit_padded :
    Clean ((withDefault " 5 ").emit {}) ∧ ¬Clean ((withDefault "5\r").emit {}) ∧
      ¬Clean ((TypeScript.withPattern "a\u0085b").emit {}) := by
  have hsettings : ∀ e ∈ ({} : Settings).entries, Clean e.2 := fun e he =>
    (Settings.oneLine_default e he).clean
  refine ⟨(clean_emit_iff ⟨{}, by rfl⟩ hsettings).mpr ?_, fun hclean => ?_, fun hclean => ?_⟩
  · intro t ht p hp
    cases List.mem_singleton.mp ht
    cases List.mem_singleton.mp hp
    refine ⟨fun _ c hc s hs => ?_, fun hl => by cases hl⟩
    cases hc
    cases hs
    decide
  · have hraw := (clean_emit_iff ⟨{}, by rfl⟩ hsettings).mp hclean _ List.mem_cons_self _
      List.mem_cons_self
    exact absurd (hraw.default rfl _ rfl _ rfl) (by decide)
  · have hraw := (clean_emit_iff ⟨{}, by rfl⟩ hsettings).mp hclean _ List.mem_cons_self _
      List.mem_cons_self
    exact hraw.pattern rfl rfl _ rfl _ rfl (by decide)

/-- So a server that validation lets pass can have a next line in its source, whatever the settings keep
out. -/
theorem Server.not_forall_clean_emit :
    ¬∀ s : Server, s.Accepted → ∀ settings : Settings, settings.OneLine → Clean (s.emit settings) := by
  intro h
  have hdefault := Settings.oneLine_default
  have haccepted : (TypeScript.withPattern "a\u0085b").Accepted := ⟨{}, by rfl⟩
  have hclean := h _ haccepted {} hdefault
  rw [haccepted.clean_emit fun e he => (hdefault e he).clean] at hclean
  have hvalidator := hclean _ List.mem_cons_self _ List.mem_cons_self
  have hstray : ¬Clean "z.string().regex(/a\u0085b/)" := by decide
  exact hstray hvalidator

end Scaffold
