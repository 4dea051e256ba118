import Scaffold.Pattern.Estimate
import Scaffold.Proofs.Source.Default
import Scaffold.Proofs.Text.Calendar

namespace Scaffold

namespace Text

/-- A digit of any script stands in a string literal as it is. -/
theorem sourceChar_of_decimalDigit {c : Char} (h : decimalDigit.contains c = true) : sourceChar c = [c] := by
  have hnone : ∀ d ∈ ['"', '\\', '\x08', '\x0c', '\n', '\r', '\t', '\u0085', '\u2028', '\u2029'],
      decimalDigit.contains d = false := List.forall_iff_forall_mem.mp (by decide)
  have hne : ∀ d ∈ ['"', '\\', '\x08', '\x0c', '\n', '\r', '\t', '\u0085', '\u2028', '\u2029'],
      c ≠ d := by
    intro d hd
    rintro rfl
    rw [hnone c hd] at h
    cases h
  -- The first digits are those of ASCII, behind all the controls.
  have hlow : ¬c.toNat < 0x20 := by
    intro hlow
    have hout : decimalDigit.contains c = false := CharSet.covers_of_lt (by omega) _
    rw [h] at hout
    cases hout
  simp only [List.forall_mem_cons] at hne
  simp [sourceChar, jsonChar, isWideLineEnd, hne, hlow]

/-- So a date is shown between quotes as it is. -/
theorem IsDateForm.quote_eq {s : String} (h : IsDateForm s) : quote s = "\"" ++ s ++ "\"" := by
  have hself : ∀ c ∈ s.toList, sourceChar c = [c] := by
    obtain ⟨a, b, c, d, e, f, g, k, hs, hdigits⟩ := h
    have hdash : sourceChar '-' = ['-'] := by decide
    have hall : ∀ x ∈ [a, b, c, d, e, f, g, k], sourceChar x = [x] := fun x hx =>
      sourceChar_of_decimalDigit (hdigits x hx)
    simp only [List.forall_mem_cons] at hall
    rw [hs]
    simp [hall, hdash]
  have hflat : s.toList.flatMap sourceChar = s.toList := by
    rw [List.flatMap_congr hself, List.flatMap_singleton']
  rw [quote, quoteWith, hflat, ← String.toList_inj, String.toList_ofList, String.toList_append,
    String.toList_append]
  rfl

end Text

namespace Parameter

/-- The parameter with another text as its default, if it is a date that has one. -/
def withDate (text : String) (p : Parameter) : Parameter :=
  if p.type = .date then
    { p with constraints := p.constraints.map fun c =>
        { c with default := c.default.map fun _ => .string text } }
  else p

theorem name_withDate (text : String) (p : Parameter) : (p.withDate text).name = p.name := by
  unfold withDate
  split <;> rfl

/-- The rules for a parameter do not tell one date from another. -/
theorem Valid.withDate [Pattern.SizeLimit] {limits : Limits} {p : Parameter} (h : p.Valid limits)
    {text : String} (htext : Text.IsDateForm text) : (p.withDate text).Valid limits := by
  unfold Parameter.withDate
  split
  · next htype =>
    refine ⟨h.name_fits, h.bindable, h.description_le, h.type_known, fun henum => ?_, ?_⟩
    · rw [htype] at henum
      cases henum
    · intro c hc
      obtain ⟨b, hb, rfl⟩ := Option.map_eq_some_iff.mp hc
      -- Nothing else in the constraints depends on the default.
      have hconsistent := h.consistent b hb
      refine { hconsistent with default_suits := ?_ }
      intro v hv
      obtain ⟨-, -, rfl⟩ := Option.map_eq_some_iff.mp hv
      change DefaultValue.Suits _ p.type _
      rw [htype]
      exact .date htext
  · exact h

end Parameter

namespace Tool

/-- The tool with its parameters changed. -/
def mapParameters (f : Parameter → Parameter) (t : Tool) : Tool :=
  { t with parameters := t.parameters.map f }

variable {f : Parameter → Parameter} {limits : Limits}

theorem Valid.mapParameters [Pattern.SizeLimit] {t : Tool} (h : t.Valid limits)
    (hname : ∀ p, (f p).name = p.name)
    (hf : ∀ p, p.Valid limits → (f p).Valid limits) : (t.mapParameters f).Valid limits := by
  have hidentifier (p : Parameter) : (f p).identifier = p.identifier := congrArg Text.identifierOf (hname p)
  have hidentifiers : (t.mapParameters f).parameterIdentifiers = t.parameterIdentifiers := by
    rw [parameterIdentifiers, parameterIdentifiers, Tool.mapParameters, List.map_map]
    exact List.map_congr_left fun p _ => hidentifier p
  refine ⟨h.name_fits, h.bindable, h.description_fits, ?_, ?_, ?_, ?_⟩
  · rw [Tool.mapParameters, List.length_map]
    exact h.parameters_le
  · exact List.forall_mem_map.mpr fun p hp => hf p (h.parameters_valid p hp)
  · rw [hidentifiers]
    exact h.parameters_nodup
  · refine List.forall_mem_map.mpr fun p hp => ?_
    rw [hidentifier]
    exact h.parameters_apart p hp

end Tool

namespace Server

/-- The server with the parameters of all tools changed. -/
def mapParameters (f : Parameter → Parameter) (s : Server) : Server :=
  { s with tools := s.tools.map (Tool.mapParameters f) }

variable {f : Parameter → Parameter} {limits : Limits} {s : Server}

/-- Rules that a change of parameters keeps for each of them, it keeps for the server. -/
theorem Valid.mapParameters [Pattern.SizeLimit] (h : s.Valid limits) (hname : ∀ p, (f p).name = p.name)
    (hf : ∀ p, p.Valid limits → (f p).Valid limits) : (s.mapParameters f).Valid limits := by
  have hidentifiers : (s.mapParameters f).tools.map Tool.identifier = s.tools.map Tool.identifier := by
    rw [Server.mapParameters, List.map_map]
    rfl
  refine ⟨h.name_fits, h.description_fits, ?_, ?_, ?_, ?_, ?_⟩
  · exact fun hnil => h.tools_ne_nil (List.map_eq_nil_iff.mp hnil)
  · rw [Server.mapParameters, List.length_map]
    exact h.tools_le
  · exact List.forall_mem_map.mpr fun t ht => (h.tools_valid t ht).mapParameters hname hf
  · rw [hidentifiers]
    exact h.tools_nodup
  · exact List.forall_mem_map.mpr fun t ht => List.forall_mem_map.mpr fun owner howner =>
      h.tools_apart t ht owner howner

/-- The dates that validation lets pass. In an accepted server the default of a date is a text of the form of
a date, which is what the schema makes a date of; it names a day exactly when its digits and numbers say so.
Nothing more is looked at: any text of the form may stand in the place of all these defaults. -/
theorem date_defaults [Pattern.SizeLimit] (ha : s.Accepted) :
    (∀ t ∈ s.tools, ∀ p ∈ t.parameters, p.type = .date → ∀ c ∈ p.constraints, ∀ v ∈ c.default,
      ∃ text, v = .string text ∧ Text.IsDateForm text ∧
        ".default(new Date(\"" ++ text ++ "\"))" ∈ (TypeScript.fragment p).parts ∧
        ((∃ d : CalendarDay, text = d.text) ↔ Text.namesDay text.toList = true)) ∧
      ∀ text, Text.IsDateForm text → (s.mapParameters (Parameter.withDate text)).Accepted := by
  obtain ⟨limits, hs⟩ := ha.valid
  constructor
  · intro t ht p hp htype c hc v hv
    have hsuits := (((hs.tools_valid t ht).parameters_valid p hp).consistent c hc).default_suits v hv
    rw [htype] at hsuits
    obtain ⟨text, rfl, hform⟩ : ∃ text, v = .string text ∧ Text.IsDateForm text := by
      cases hsuits with
      | text h => cases h
      | date h => exact ⟨_, rfl, h⟩
    refine ⟨text, rfl, hform, ?_, (Text.namesDay_iff text).symm⟩
    refine TypeScript.mem_parts_iff.mpr ⟨_, Parameter.default_mem_checks hc hv, ?_⟩
    have hliteral : (DefaultValue.string text).literal p.type boolText = "\"" ++ text ++ "\"" := by
      rw [htype]
      exact hform.quote_eq
    have hopen : ".default(new Date(\"" = ".default(new Date(" ++ "\"" := by decide
    have hclose : "\"))" = "\"" ++ "))" := by decide
    rw [TypeScript.call, TypeScript.defaultCall, if_pos htype, hliteral, hopen, hclose]
    simp only [String.append_assoc]
  · intro text htext
    exact (hs.mapParameters (Parameter.name_withDate text) fun p hp => hp.withDate htext).accepted

/-- A server whose one parameter is a date with this default. -/
def withDateDefault (text : String) : Server where
  name := "server"
  description := "dates"
  language := .typeScript
  tools := [{
    name := "list"
    description := "a tool"
    parameters := [{
      name := "since"
      type := .date
      constraints := some { default := some (.string text) } }] }]

/-- A leap day is let pass, and so is the same day of a year that has none. -/
theorem date_defaults_leap :
    (withDateDefault "2024-02-29").Accepted ∧ (∃ d : CalendarDay, "2024-02-29" = d.text) ∧
      (withDateDefault "2023-02-29").Accepted ∧ ¬∃ d : CalendarDay, "2023-02-29" = d.text := by
  have ha : (withDateDefault "2024-02-29").Accepted := ⟨{}, by rfl⟩
  obtain ⟨hdefaults, hany⟩ := date_defaults ha
  obtain ⟨text, htext, -, -, hday⟩ :=
    hdefaults _ List.mem_cons_self _ List.mem_cons_self rfl _ rfl _ rfl
  obtain rfl := DefaultValue.string.inj htext
  refine ⟨ha, hday.mpr (by decide), hany "2023-02-29" ?_, ?_⟩
  · exact (Text.isDateForm_eq_true_iff _).mp (by decide)
  · rw [← Text.namesDay_iff]
    decide

/-- So a default that validation lets pass need not be a day: there is no thirteenth month. -/
theorem not_forall_date_default :
    ¬∀ s : Server, s.Accepted → ∀ t ∈ s.tools, ∀ p ∈ t.parameters, p.type = .date →
      ∀ c ∈ p.constraints, ∀ v ∈ c.default, ∃ d : CalendarDay, v = .string d.text := by
  intro h
  obtain ⟨d, hd⟩ := h (withDateDefault "2024-13-01") ⟨{}, by rfl⟩ _ List.mem_cons_self _
    List.mem_cons_self rfl _ rfl _ rfl
  have hday : Text.namesDay "2024-13-01".toList = true :=
    (Text.namesDay_iff _).mpr ⟨d, DefaultValue.string.inj hd⟩
  exact absurd hday (by decide)

end Server

end Scaffold
