import Scaffold.Proofs.Validation.Headings

namespace Scaffold

namespace FieldPlace

/-- A place that belongs to the tool with the given index, or to one of its parameters. -/
def Within (i : Nat) (t : Tool) : FieldPlace → Prop
  | tool k _ => k = i
  | parameter k j _ => k = i ∧ j < t.parameters.length
  | _ => False

theorem Within.isIn {i : Nat} {t : Tool} {p : FieldPlace} (h : p.Within i t) {s : Server}
    (ht : s.tools[i]? = some t) : p.IsIn s := by
  cases p with
  | serverName | description | tools => cases h
  | tool k part =>
    subst h
    exact (List.getElem?_eq_some_iff.mp ht).1
  | parameter k j part =>
    obtain ⟨rfl, hj⟩ := h
    exact ⟨t, ht, hj⟩

theorem Within.toolIndex?_eq {i : Nat} {t : Tool} {p : FieldPlace} (h : p.Within i t) :
    p.toolIndex? = some i := by
  cases p with
  | serverName | description | tools => cases h
  | tool k part => exact congrArg some h
  | parameter k j part => exact congrArg some h.1

theorem IsIn.exists_tool {s : Server} {p : FieldPlace} (h : p.IsIn s) {i : Nat}
    (hi : p.toolIndex? = some i) : ∃ t, s.tools[i]? = some t := by
  cases p with
  | serverName | description | tools => cases hi
  | tool k part =>
    obtain rfl := Option.some.inj hi
    exact ⟨_, List.getElem?_eq_getElem h⟩
  | parameter k j part =>
    obtain rfl := Option.some.inj hi
    obtain ⟨t, ht, -⟩ := h
    exact ⟨t, ht⟩

theorem rank_eq_of_toolIndex? {p : FieldPlace} {i : Nat} (h : p.toolIndex? = some i) : p.rank = 3 := by
  cases p with
  | serverName | description | tools => cases h
  | tool | parameter => rfl

theorem NotAfter.of_rank_lt {p q : FieldPlace} (h : p.rank < q.rank) (hp : p.toolIndex? = none) :
    p.NotAfter q := by
  refine ⟨Nat.le_of_lt h, ?_, ?_⟩
  · simp [hp]
  · cases p with
    | serverName | description | tools => intro _ i hi; cases hi
    | tool | parameter => cases hp

theorem NotAfter.of_lt {p q : FieldPlace} {i j : Nat} (hp : p.toolIndex? = some i)
    (hq : q.toolIndex? = some j) (h : i < j) : p.NotAfter q := by
  refine ⟨?_, ?_, ?_⟩
  · rw [rank_eq_of_toolIndex? hp, rank_eq_of_toolIndex? hq]
  · simp only [hp, hq, Option.mem_some_iff, forall_eq', Nat.le_of_lt h]
  · intro heq
    rw [hp, hq] at heq
    exact absurd (Option.some.inj heq) (Nat.ne_of_lt h)

theorem notAfter_tool (i : Nat) (a : ToolPart) {q : FieldPlace} (h : q.toolIndex? = some i) :
    (tool i a).NotAfter q := by
  refine ⟨?_, ?_, ?_⟩
  · rw [rank_eq_of_toolIndex? h]
    exact Nat.le_refl 3
  · rw [h]
    simp only [toolIndex?, Option.mem_some_iff, forall_eq', Nat.le_refl]
  · intro _ j hj
    cases hj

theorem notAfter_tool_of_le {p : FieldPlace} {i : Nat} (h : ∀ j ∈ p.toolIndex?, j ≤ i) (a : ToolPart) :
    p.NotAfter (tool i a) := by
  refine ⟨?_, ?_, ?_⟩
  · cases p <;> simp [rank]
  · intro j hj k hk
    obtain rfl := Option.some.inj hk
    exact h j hj
  · intro _ j _ k hk
    cases hk

theorem notAfter_parameter (i : Nat) {j k : Nat} (h : j ≤ k) (a b : ParameterPart) :
    (parameter i j a).NotAfter (parameter i k b) := by
  refine ⟨Nat.le_refl 3, ?_, fun _ => ?_⟩
  · simp [toolIndex?]
  · simpa [parameterIndex?] using h

end FieldPlace

/-- Headings in the order of a report: the places are in the order of the document, and no problem can
stand under both. -/
structure Heading.Before (h k : Heading FieldPlace) : Prop where
  notAfter : h.place.NotAfter k.place
  apart : h.Apart k

namespace Heading

instance : DecidableRel Before := fun h k =>
  decidable_of_iff (h.place.NotAfter k.place ∧ h.Apart k)
    ⟨fun hb => ⟨hb.1, hb.2⟩, fun hb => ⟨hb.notAfter, hb.apart⟩⟩

theorem Before.of_ne {h k : Heading FieldPlace} (hle : h.place.NotAfter k.place)
    (hne : h.place ≠ k.place) : h.Before k := ⟨hle, apart_of_ne hne⟩

/-- What stands at a tool stands before what stands at a tool behind it. -/
theorem Before.of_lt {h k : Heading FieldPlace} {i j : Nat} (hi : h.place.toolIndex? = some i)
    (hj : k.place.toolIndex? = some j) (hlt : i < j) : h.Before k := by
  refine .of_ne (.of_lt hi hj hlt) fun he => ?_
  rw [he, hj] at hi
  exact Nat.ne_of_gt hlt (Option.some.inj hi)

end Heading

theorem apart_parameterHeadings : parameterHeadings.Pairwise Heading.Apart := by decide

theorem apart_toolHeadings : toolHeadings.Pairwise Heading.Apart := by decide

theorem before_serverHeadings : serverHeadings.Pairwise Heading.Before := by decide

theorem mem_parameterHeadingsAt {i j : Nat} {h : Heading FieldPlace} (hh : h ∈ parameterHeadingsAt i j) :
    ∃ part, h.place = .parameter i j part := by
  obtain ⟨k, -, rfl⟩ := List.mem_map.mp hh
  exact ⟨k.place, rfl⟩

theorem before_parameterHeadingsAt (i j : Nat) :
    (parameterHeadingsAt i j).Pairwise Heading.Before := by
  have hinj : Function.Injective (FieldPlace.parameter i j) := fun a b h => (FieldPlace.parameter.inj h).2.2
  refine apart_parameterHeadings.map _ fun h k ha => ?_
  exact ⟨FieldPlace.notAfter_parameter i (Nat.le_refl j) _ _, ha.within hinj⟩

theorem mem_parametersHeadings {i j : Nat} {ps : List Parameter} {h : Heading FieldPlace}
    (hh : h ∈ parametersHeadings i j ps) :
    ∃ k part, h.place = .parameter i k part ∧ j ≤ k ∧ k < j + ps.length := by
  induction ps generalizing j with
  | nil => cases hh
  | cons p rest ih =>
    rw [parametersHeadings, List.mem_append] at hh
    rw [List.length_cons]
    rcases hh with hh | hh
    · obtain ⟨part, hpart⟩ := mem_parameterHeadingsAt hh
      exact ⟨j, part, hpart, Nat.le_refl j, by omega⟩
    · obtain ⟨k, part, hpart, hle, hlt⟩ := ih hh
      exact ⟨k, part, hpart, by omega, by omega⟩

theorem before_parametersHeadings (i j : Nat) (ps : List Parameter) :
    (parametersHeadings i j ps).Pairwise Heading.Before := by
  induction ps generalizing j with
  | nil => exact .nil
  | cons p rest ih =>
    refine List.pairwise_append.mpr ⟨before_parameterHeadingsAt i j, ih (j + 1), ?_⟩
    intro h hh k hk
    obtain ⟨a, ha⟩ := mem_parameterHeadingsAt hh
    obtain ⟨l, b, hb, hle, -⟩ := mem_parametersHeadings hk
    refine .of_ne ?_ ?_
    · rw [ha, hb]
      exact FieldPlace.notAfter_parameter i (by omega) a b
    · rw [ha, hb]
      intro he
      have hindex := (FieldPlace.parameter.inj he).2.1
      omega

/-- The headings of one tool. -/
theorem within_of_mem_toolHeadings {i : Nat} {t : Tool} {h : Heading FieldPlace}
    (hh : h ∈ toolHeadingsAt i ++ parametersHeadings i 0 t.parameters) :
    h.place.Within i t := by
  rcases List.mem_append.mp hh with hh | hh
  · obtain ⟨k, -, rfl⟩ := List.mem_map.mp hh
    rfl
  · obtain ⟨k, part, hplace, -, hlt⟩ := mem_parametersHeadings hh
    rw [hplace]
    exact ⟨rfl, by omega⟩

theorem before_toolHeadingsAt (i : Nat) : (toolHeadingsAt i).Pairwise Heading.Before := by
  have hinj : Function.Injective (FieldPlace.tool i) := fun a b h => (FieldPlace.tool.inj h).2
  refine apart_toolHeadings.map _ fun h k ha => ?_
  have hindex : (k.within (FieldPlace.tool i)).place.toolIndex? = some i := rfl
  exact ⟨FieldPlace.notAfter_tool i _ hindex, ha.within hinj⟩

theorem before_toolHeadings (i : Nat) (ps : List Parameter) :
    (toolHeadingsAt i ++ parametersHeadings i 0 ps).Pairwise Heading.Before := by
  refine List.pairwise_append.mpr ⟨before_toolHeadingsAt i, before_parametersHeadings i 0 ps, ?_⟩
  intro h hh k hk
  obtain ⟨h, -, rfl⟩ := List.mem_map.mp hh
  obtain ⟨l, b, hb, -, -⟩ := mem_parametersHeadings hk
  have hindex : k.place.toolIndex? = some i := by rw [hb]; rfl
  refine .of_ne (FieldPlace.notAfter_tool i _ hindex) ?_
  rw [hb]
  intro he
  cases he

theorem mem_toolsHeadings {i : Nat} {ts : List Tool} {h : Heading FieldPlace} (hh : h ∈ toolsHeadings i ts) :
    ∃ k t, ts[k]? = some t ∧ h.place.Within (i + k) t := by
  induction ts generalizing i with
  | nil => cases hh
  | cons t rest ih =>
    rw [toolsHeadings, List.mem_append] at hh
    rcases hh with hh | hh
    · exact ⟨0, t, rfl, within_of_mem_toolHeadings hh⟩
    · obtain ⟨k, u, hu, hwithin⟩ := ih hh
      refine ⟨k + 1, u, hu, ?_⟩
      rwa [show i + (k + 1) = i + 1 + k by omega]

theorem before_toolsHeadings (i : Nat) (ts : List Tool) :
    (toolsHeadings i ts).Pairwise Heading.Before := by
  induction ts generalizing i with
  | nil => exact .nil
  | cons t rest ih =>
    refine List.pairwise_append.mpr ⟨before_toolHeadings i t.parameters, ih (i + 1), ?_⟩
    intro h hh k hk
    obtain ⟨l, u, -, hwithin⟩ := mem_toolsHeadings hk
    exact .of_lt (within_of_mem_toolHeadings hh).toolIndex?_eq hwithin.toolIndex?_eq (by omega)

namespace Server

theorem before_headings (s : Server) : s.headings.Pairwise Heading.Before := by
  refine List.pairwise_append.mpr ⟨before_serverHeadings, before_toolsHeadings 0 s.tools, ?_⟩
  intro h hh k hk
  obtain ⟨l, u, -, hwithin⟩ := mem_toolsHeadings hk
  have hrank : ∀ h ∈ serverHeadings, h.place.rank < 3 := by decide
  have hindex := toolIndex?_of_mem_serverHeadings hh
  refine .of_ne (.of_rank_lt ?_ hindex) ?_
  · rw [FieldPlace.rank_eq_of_toolIndex? hwithin.toolIndex?_eq]
    exact hrank h hh
  · intro he
    rw [he, hwithin.toolIndex?_eq] at hindex
    cases hindex

theorem isIn_of_mem_headings {s : Server} {h : Heading FieldPlace} (hh : h ∈ s.headings) :
    h.place.IsIn s := by
  rcases List.mem_append.mp hh with hh | hh
  · have hserver : ∀ h ∈ serverHeadings,
        h.place = .serverName ∨ h.place = .description ∨ h.place = .tools := by decide
    rcases hserver h hh with hplace | hplace | hplace <;> rw [hplace] <;> exact trivial
  · obtain ⟨k, t, ht, hwithin⟩ := mem_toolsHeadings hh
    rw [Nat.zero_add] at hwithin
    exact hwithin.isIn ht

end Server

theorem bounds_of_mem_toolProblems_snd [Pattern.SizeLimit] {limits : Limits} {seen : List String} {i : Nat}
    {ts : List Tool} {name : Nat × String} (h : name ∈ (toolProblems limits seen i ts).2) :
    i ≤ name.1 ∧ name.1 < i + ts.length := by
  induction ts generalizing seen i with
  | nil => cases h
  | cons t rest ih =>
    rw [toolProblems, List.mem_append] at h
    rw [List.length_cons]
    rcases h with h | h
    · obtain ⟨x, -, rfl⟩ := List.mem_map.mp h
      exact ⟨Nat.le_refl i, by omega⟩
    · have hrest := ih h
      omega

theorem lt_toolProblems_snd [Pattern.SizeLimit] (limits : Limits) (seen : List String) (i : Nat)
    (ts : List Tool) :
    (toolProblems limits seen i ts).2.Pairwise fun a b => a.1 < b.1 := by
  induction ts generalizing seen i with
  | nil => exact .nil
  | cons t rest ih =>
    rw [toolProblems]
    refine List.pairwise_append.mpr ⟨?_, ih _ _, ?_⟩
    · cases (nameProblems seen (toolPath i ++ ".name") "Tool name" "tool" t.name
        limits.nameLength).2 with
      | none => exact .nil
      | some x => exact List.pairwise_singleton _ _
    · intro a ha b hb
      obtain ⟨x, -, rfl⟩ := List.mem_map.mp ha
      exact (bounds_of_mem_toolProblems_snd hb).1

/-- Of the headings of tools, those at a tool itself are its own. -/
theorem mem_toolHeadingsAt_of_mem {i n : Nat} {part : ToolPart} {ts : List Tool} {h : Heading FieldPlace}
    (hh : h ∈ toolsHeadings i ts) (hplace : h.place = .tool n part) : h ∈ toolHeadingsAt n := by
  induction ts generalizing i with
  | nil => cases hh
  | cons t rest ih =>
    rw [toolsHeadings, List.mem_append, List.mem_append] at hh
    rcases hh with (hh | hh) | hh
    · obtain ⟨k, hk, rfl⟩ := List.mem_map.mp hh
      obtain rfl : i = n := (FieldPlace.tool.inj hplace).1
      exact List.mem_map_of_mem hk
    · obtain ⟨k, b, hb, -⟩ := mem_parametersHeadings hh
      rw [hplace] at hb
      cases hb
    · exact ih hh

namespace Server

theorem before_clashHeadings [Pattern.SizeLimit] (limits : Limits) (s : Server) :
    (s.clashHeadings limits).Pairwise Heading.Before :=
  (lt_toolProblems_snd limits [] 0 s.tools).map _ fun _ _ hlt => .of_lt rfl rfl hlt

theorem isIn_of_mem_clashHeadings [Pattern.SizeLimit] {limits : Limits} {s : Server} {h : Heading FieldPlace}
    (hh : h ∈ s.clashHeadings limits) : h.place.IsIn s := by
  obtain ⟨name, hname, rfl⟩ := List.mem_map.mp hh
  have hlt := (bounds_of_mem_toolProblems_snd hname).2
  rwa [Nat.zero_add] at hlt

/-- A clash is told from every problem that a tool has by itself. -/
theorem apart_headings [Pattern.SizeLimit] (limits : Limits) (s : Server) :
    (s.headings ++ s.clashHeadings limits).Pairwise Heading.Apart := by
  have hown := s.before_headings.imp Heading.Before.apart
  have hclashes := (s.before_clashHeadings limits).imp Heading.Before.apart
  refine List.pairwise_append.mpr ⟨hown, hclashes, fun h hh k hk hplace => ?_⟩
  obtain ⟨⟨n, x⟩, -, rfl⟩ := List.mem_map.mp hk
  have htool : h ∈ toolHeadingsAt n := by
    rcases List.mem_append.mp hh with hh | hh
    · have hindex := toolIndex?_of_mem_serverHeadings hh
      rw [hplace] at hindex
      cases hindex
    · exact mem_toolHeadingsAt_of_mem hh hplace
  have hwords : ∀ h ∈ toolHeadings, h.Apart ⟨.name, "Tool name " ++ "\""⟩ := by decide
  obtain ⟨h, hmem, rfl⟩ := List.mem_map.mp htool
  exact hwords h hmem (FieldPlace.tool.inj hplace).2

end Server

end Scaffold
