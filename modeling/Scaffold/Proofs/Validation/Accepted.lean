import Scaffold.Proofs.Validation.Fields

/-!
Validation lets a server description pass exactly when it keeps all rules. The checks of a list carry
the names seen so far; what they come to is one statement over the whole list in which the names seen
only have to be avoided, so the start with no names leaves a rule that speaks of the list alone.
-/

namespace Scaffold

/-- A parameter lists alternatives exactly when its constraints name at least one value. -/
theorem Parameter.exists_alternatives_iff (p : Parameter) :
    (p.constraints.bind Constraints.alternatives).isSome = true ↔
      ∃ c ∈ p.constraints, ∃ v vs, c.allowed = some (v :: vs) := by
  rw [Option.isSome_iff_exists]
  constructor
  · rintro ⟨values, h⟩
    obtain ⟨c, hc, ha⟩ := Option.bind_eq_some_iff.mp h
    obtain ⟨v, vs, -, ha⟩ := Constraints.mem_alternatives.mp ha
    exact ⟨c, hc, v, vs, ha⟩
  · rintro ⟨c, hc, v, vs, ha⟩
    have hv : c.alternatives = some (v :: vs) :=
      Constraints.mem_alternatives.mpr ⟨v, vs, rfl, ha⟩
    exact ⟨v :: vs, Option.bind_eq_some_iff.mpr ⟨c, hc, hv⟩⟩

/-- The problems of a parameter apart from its name are absent exactly when the rest of the rules
for it hold. -/
theorem Parameter.bodyProblems_eq_nil_iff [Pattern.SizeLimit] (limits : Limits) (path : String)
    (p : Parameter) :
    p.bodyProblems limits path = [] ↔
      p.description.length ≤ limits.descriptionLength ∧ p.type ∈ ParamType.known ∧
        (p.type = .enum → ∃ c ∈ p.constraints, ∃ v vs, c.allowed = some (v :: vs)) ∧
        ∀ c ∈ p.constraints, c.Consistent p.type := by
  have he : (decide (p.type = .enum) && (p.constraints.bind Constraints.alternatives).isNone) = false ↔
      (p.type = .enum → ∃ c ∈ p.constraints, ∃ v vs, c.allowed = some (v :: vs)) := by
    rw [← Parameter.exists_alternatives_iff, ← Option.not_isSome]
    by_cases ht : p.type = .enum <;> simp [ht]
  simp only [Parameter.bodyProblems, List.append_eq_nil_iff, problemIf_eq_nil_iff, he,
    decide_eq_false_iff_not, Nat.not_lt, ParamType.mem_known_iff, ne_eq, and_assoc]
  refine and_congr_right fun _ => and_congr_right fun _ => and_congr_right fun _ => ?_
  cases p.constraints with
  | none => simp
  | some c => simp [Constraints.problems_eq_nil_iff]

theorem isGeneratedFor_eq_false_iff (tool name : String) :
    isGeneratedFor tool name = false ↔ name ≠ tool ++ "_params" ∧ name ≠ tool ++ "_schema" := by
  simp [isGeneratedFor, generatedEndings]

theorem shadowProblems_eq_nil_iff (field tool name : String) :
    shadowProblems field (some tool) (some name) = [] ↔ name ∉ handlerNames tool := by
  simp only [shadowProblems, problemIf_eq_nil_iff, Option.any_some, handlerNames, List.mem_cons,
    List.not_mem_nil, or_false, not_or, Bool.or_eq_false_iff, decide_eq_false_iff_not,
    isGeneratedFor_eq_false_iff]

/-- A list of parameters next to the names seen before it. -/
theorem parameterProblems_eq_nil_iff [Pattern.SizeLimit] (limits : Limits) (path tool : String)
    (ps : List Parameter) (seen : List String) (index : Nat) :
    parameterProblems limits path (some tool) seen index ps = [] ↔
      (∀ p ∈ ps, p.Valid limits) ∧ (ps.map Parameter.identifier).Nodup ∧
        (∀ p ∈ ps, p.identifier ∉ handlerNames tool) ∧ ∀ p ∈ ps, p.identifier ∉ seen := by
  induction ps generalizing seen index with
  | nil => simp [parameterProblems]
  | cons p rest ih =>
    simp only [parameterProblems, List.append_eq_nil_iff, nameProblems_fst_eq_nil_iff,
      Parameter.bodyProblems_eq_nil_iff]
    constructor
    · rintro ⟨⟨⟨hn, hs⟩, hb⟩, hr⟩
      rw [nameProblems_snd_of_nil ((nameProblems_fst_eq_nil_iff ..).mpr hn)] at hs hr
      obtain ⟨hv, hd, ha, hf⟩ := (ih ..).mp hr
      have hp : p.Valid limits := ⟨hn.1, hn.2.1, hb.1, hb.2.1, hb.2.2.1, hb.2.2.2⟩
      refine ⟨List.forall_mem_cons.mpr ⟨hp, hv⟩, ?_, ?_, ?_⟩
      · refine List.nodup_cons.mpr ⟨fun hm => ?_, hd⟩
        obtain ⟨q, hq, he⟩ := List.mem_map.mp hm
        exact hf q hq (he ▸ List.mem_cons_self)
      · exact List.forall_mem_cons.mpr ⟨(shadowProblems_eq_nil_iff ..).mp hs, ha⟩
      · exact List.forall_mem_cons.mpr
          ⟨hn.2.2, fun q hq hm => hf q hq (List.mem_cons_of_mem _ hm)⟩
    · rintro ⟨hv, hd, ha, hf⟩
      obtain ⟨hp, hv⟩ := List.forall_mem_cons.mp hv
      obtain ⟨hpd, hd⟩ := List.nodup_cons.mp hd
      obtain ⟨hpa, ha⟩ := List.forall_mem_cons.mp ha
      obtain ⟨hpf, hf⟩ := List.forall_mem_cons.mp hf
      have hn : Text.Fits limits.nameLength p.name ∧ Bindable (Text.identifierOf p.name) ∧
          Text.identifierOf p.name ∉ seen := ⟨hp.name_fits, hp.bindable, hpf⟩
      rw [nameProblems_snd_of_nil ((nameProblems_fst_eq_nil_iff ..).mpr hn)]
      refine ⟨⟨⟨hn, (shadowProblems_eq_nil_iff ..).mpr hpa⟩,
        hp.description_le, hp.type_known, hp.enum_values, hp.consistent⟩, (ih ..).mpr ⟨hv, hd, ha, ?_⟩⟩
      -- The name of `p` joins the names seen; the rest avoids it because the names are distinct.
      intro q hq hm
      rcases List.mem_cons.mp hm with he | hm
      · exact hpd (List.mem_map.mpr ⟨q, hq, he⟩)
      · exact hf q hq hm

/-- The problems of a tool are absent exactly when its rules hold and its name is new. -/
theorem toolProblems_head_eq_nil_iff [Pattern.SizeLimit] (limits : Limits) (path : String) (t : Tool)
    (seen : List String) (field label kind : String) :
    (nameProblems seen field label kind t.name limits.nameLength).1 = [] ∧
        t.bodyProblems limits path
          (nameProblems seen field label kind t.name limits.nameLength).2 = [] ↔
      t.Valid limits ∧ t.identifier ∉ seen := by
  constructor
  · rintro ⟨hn, hb⟩
    rw [nameProblems_snd_of_nil hn] at hb
    obtain ⟨hfit, hbind, hnew⟩ := (nameProblems_fst_eq_nil_iff ..).mp hn
    simp only [Tool.bodyProblems, List.append_eq_nil_iff, textProblems_eq_nil_iff,
      problemIf_eq_nil_iff, decide_eq_false_iff_not, Nat.not_lt, parameterProblems_eq_nil_iff] at hb
    obtain ⟨⟨hd, hl⟩, hv, hu, ha, -⟩ := hb
    exact ⟨⟨hfit, hbind, hd, hl, hv, hu, ha⟩, hnew⟩
  · rintro ⟨h, hnew⟩
    have hn := (nameProblems_fst_eq_nil_iff seen field label kind t.name limits.nameLength).mpr
      ⟨h.name_fits, h.bindable, hnew⟩
    refine ⟨hn, ?_⟩
    rw [nameProblems_snd_of_nil hn]
    simp only [Tool.bodyProblems, List.append_eq_nil_iff, textProblems_eq_nil_iff,
      problemIf_eq_nil_iff, decide_eq_false_iff_not, Nat.not_lt, parameterProblems_eq_nil_iff]
    exact ⟨⟨h.description_fits, h.parameters_le⟩, h.parameters_valid, h.parameters_nodup,
      h.parameters_apart, fun _ _ => List.not_mem_nil⟩

/-- A list of tools next to the names seen before it. -/
theorem toolProblems_fst_eq_nil_iff [Pattern.SizeLimit] (limits : Limits) (ts : List Tool)
    (seen : List String) (index : Nat) :
    (toolProblems limits seen index ts).1 = [] ↔
      (∀ t ∈ ts, t.Valid limits) ∧ (ts.map Tool.identifier).Nodup ∧
        ∀ t ∈ ts, t.identifier ∉ seen := by
  induction ts generalizing seen index with
  | nil => simp [toolProblems]
  | cons t rest ih =>
    simp only [toolProblems, List.append_eq_nil_iff, toolProblems_head_eq_nil_iff]
    constructor
    -- Its name joins the names seen, and the rest avoids all of them.
    · rintro ⟨⟨ht, hnew⟩, hr⟩
      have hn := (toolProblems_head_eq_nil_iff limits (toolPath index) t seen
        (toolPath index ++ ".name") "Tool name" "tool").mpr ⟨ht, hnew⟩
      rw [nameProblems_snd_of_nil hn.1] at hr
      obtain ⟨hv, hd, hf⟩ := (ih ..).mp hr
      refine ⟨List.forall_mem_cons.mpr ⟨ht, hv⟩, List.nodup_cons.mpr ⟨fun hm => ?_, hd⟩, ?_⟩
      · obtain ⟨u, hu, he⟩ := List.mem_map.mp hm
        exact hf u hu (he ▸ List.mem_cons_self)
      · exact List.forall_mem_cons.mpr ⟨hnew, fun u hu hm => hf u hu (List.mem_cons_of_mem _ hm)⟩
    · rintro ⟨hv, hd, hf⟩
      obtain ⟨ht, hv⟩ := List.forall_mem_cons.mp hv
      obtain ⟨htd, hd⟩ := List.nodup_cons.mp hd
      obtain ⟨hnew, hf⟩ := List.forall_mem_cons.mp hf
      have hn := (toolProblems_head_eq_nil_iff limits (toolPath index) t seen
        (toolPath index ++ ".name") "Tool name" "tool").mpr ⟨ht, hnew⟩
      rw [nameProblems_snd_of_nil hn.1]
      refine ⟨⟨ht, hnew⟩, (ih ..).mpr ⟨hv, hd, fun u hu hm => ?_⟩⟩
      rcases List.mem_cons.mp hm with he | hm
      · exact htd (List.mem_map.mpr ⟨u, hu, he⟩)
      · exact hf u hu hm

/-- Where no tool has a problem, all their names are looked at for clashes. -/
theorem toolProblems_snd_of_nil [Pattern.SizeLimit] (limits : Limits) (ts : List Tool) (seen : List String)
    (index : Nat) (h : (toolProblems limits seen index ts).1 = []) :
    (toolProblems limits seen index ts).2.map Prod.snd = ts.map Tool.identifier := by
  induction ts generalizing seen index with
  | nil => rfl
  | cons t rest ih =>
    simp only [toolProblems, List.append_eq_nil_iff] at h ⊢
    obtain ⟨⟨hn, -⟩, hr⟩ := h
    rw [nameProblems_snd_of_nil hn] at hr ⊢
    have hrest := ih _ _ hr
    simp only [Option.toList_some, List.map_cons, List.map_nil, List.singleton_append] at hrest ⊢
    rw [hrest]
    rfl

theorem clashProblems_eq_nil_iff (names : List (Nat × String)) :
    clashProblems names = [] ↔
      ∀ name ∈ names.map Prod.snd, ∀ owner ∈ names.map Prod.snd,
        name ≠ owner ++ "_params" ∧ name ≠ owner ++ "_schema" := by
  simp only [clashProblems, List.flatMap_eq_nil_iff, List.forall_mem_map,
    ← isGeneratedFor_eq_false_iff]
  refine forall₂_congr fun entry _ => ?_
  split
  · next o ho =>
    have hg := List.find?_some ho
    refine iff_of_false (List.cons_ne_nil _ _) fun h => ?_
    rw [h _ (List.mem_of_find?_eq_some ho)] at hg
    cases hg
  · next ho => simpa using List.find?_eq_none.mp ho

theorem countProblems_eq_nil_iff (limits : Limits) (ts : List Tool) :
    countProblems limits ts = [] ↔ ts ≠ [] ∧ ts.length ≤ limits.tools := by
  cases ts <;> simp [countProblems]

theorem Server.problems_eq_nil_iff [Pattern.SizeLimit] (limits : Limits) (s : Server) :
    s.problems limits = [] ↔ s.Valid limits := by
  simp only [Server.problems, List.append_eq_nil_iff, textProblems_eq_nil_iff,
    countProblems_eq_nil_iff, toolProblems_fst_eq_nil_iff, clashProblems_eq_nil_iff]
  have hnames (hv : ∀ t ∈ s.tools, t.Valid limits) (hd : (s.tools.map Tool.identifier).Nodup) :
      (toolProblems limits [] 0 s.tools).2.map Prod.snd = s.tools.map Tool.identifier :=
    toolProblems_snd_of_nil limits s.tools [] 0
      ((toolProblems_fst_eq_nil_iff ..).mpr ⟨hv, hd, fun _ _ => List.not_mem_nil⟩)
  constructor
  · rintro ⟨⟨⟨⟨hn, hd⟩, hne, hle⟩, hv, hu, -⟩, ha⟩
    rw [hnames hv hu] at ha
    simp only [List.forall_mem_map] at ha
    exact ⟨hn, hd, hne, hle, hv, hu, ha⟩
  · intro h
    rw [hnames h.tools_valid h.tools_nodup]
    simp only [List.forall_mem_map]
    exact ⟨⟨⟨⟨h.name_fits, h.description_fits⟩, h.tools_ne_nil, h.tools_le⟩, h.tools_valid,
      h.tools_nodup, fun _ _ => List.not_mem_nil⟩, h.tools_apart⟩

/-- What validation lets pass keeps the rules. -/
theorem Server.Accepted.valid [Pattern.SizeLimit] {s : Server}
    (h : s.Accepted) : ∃ limits, s.Valid limits := by
  obtain ⟨limits, h⟩ := h
  refine ⟨limits, (s.problems_eq_nil_iff limits).mp ?_⟩
  unfold Server.validate at h
  split at h
  · assumption
  · cases h

/-- What keeps the rules is let pass. -/
theorem Server.Valid.accepted [Pattern.SizeLimit] {limits : Limits} {s : Server}
    (h : s.Valid limits) : s.Accepted := by
  refine ⟨limits, ?_⟩
  rw [Server.validate, (s.problems_eq_nil_iff limits).mpr h]

/-- Validation lets a server description pass exactly when it keeps all rules. -/
theorem Server.validate_eq_ok_iff [Pattern.SizeLimit] (limits : Limits) (s : Server) :
    s.validate limits = .ok () ↔ s.Valid limits := by
  rw [← Server.problems_eq_nil_iff]
  unfold Server.validate
  split
  · next h => simp [h]
  · next h => simpa using h

end Scaffold
