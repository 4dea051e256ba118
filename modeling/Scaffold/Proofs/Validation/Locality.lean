import Scaffold.Pattern.Estimate
import Scaffold.Proofs.Validation.Report

namespace Scaffold

/-- Whether a problem is reported below the constraints of the parameter. -/
def FieldError.isBelow (i j : Nat) (e : FieldError) : Bool := e.field.startsWith (constraintsPath i j)

/-- The problems of a description that are reported below the constraints of the parameter. -/
def Server.constraintErrors [Pattern.SizeLimit] (limits : Limits) (s : Server)
    (i j : Nat) : List FieldError :=
  (s.problems limits).filter (FieldError.isBelow i j)

theorem FieldError.Bears.isBelow_iff {e : FieldError} {h : Heading FieldPlace} (hb : e.Bears h) (i j : Nat) :
    e.isBelow i j = true ↔ ∃ key, h.place = .parameter i j (.constraint key) := by
  rw [FieldError.isBelow, hb.field_eq, FieldPlace.startsWith_constraintsPath_iff]

namespace Under

variable {es : List FieldError} {hs : List (Heading FieldPlace)} {i j : Nat}

theorem filter_eq_nil (hu : Under es hs)
    (hne : ∀ h ∈ hs, ∀ key, h.place ≠ .parameter i j (.constraint key)) :
    es.filter (FieldError.isBelow i j) = [] := by
  refine List.filter_eq_nil_iff.mpr fun e he hbelow => ?_
  obtain ⟨h, hh, hb⟩ := hu.exists_bears he
  obtain ⟨key, hkey⟩ := (hb.isBelow_iff i j).mp hbelow
  exact hne h hh key hkey

/-- Problems of other tools, or of none, are not below the constraints of a parameter. -/
theorem filter_eq_nil_of_toolIndex? (hu : Under es hs) (hne : ∀ h ∈ hs, h.place.toolIndex? ≠ some i) :
    es.filter (FieldError.isBelow i j) = [] := by
  refine hu.filter_eq_nil fun h hh key hplace => hne h hh ?_
  rw [hplace]
  rfl

theorem filter_eq_self (hu : Under es hs)
    (heq : ∀ h ∈ hs, ∃ key, h.place = .parameter i j (.constraint key)) :
    es.filter (FieldError.isBelow i j) = es := by
  refine List.filter_eq_self.mpr fun e he => ?_
  obtain ⟨h, hh, hb⟩ := hu.exists_bears he
  exact (hb.isBelow_iff i j).mpr (heq h hh)

end Under

theorem filter_constraintProblems [Pattern.SizeLimit] (i j : Nat) (type : ParamType)
    (constraints : Option Constraints) :
    (constraintProblems (parameterPath i j) type constraints).filter (FieldError.isBelow i j) =
      constraintProblems (parameterPath i j) type constraints := by
  refine (under_constraintProblems i j type constraints).filter_eq_self fun h hh => ?_
  have hkeys : ∀ k ∈ constraintHeadings, ∃ key, k.place = .constraint key := by
    simp [constraintHeadings]
  obtain ⟨k, hk, rfl⟩ := List.mem_map.mp hh
  obtain ⟨key, hkey⟩ := hkeys k hk
  exact ⟨key, congrArg _ hkey⟩

/-- Of the problems of one parameter, those below its constraints. -/
theorem filter_parameter [Pattern.SizeLimit] (limits : Limits) (i j : Nat) (tool : Option String)
    (seen : List String) (p : Parameter) (used : Option String) :
    ((nameProblems seen (parameterPath i j ++ ".name") "Parameter name" "parameter" p.name
        limits.nameLength).1 ++
      shadowProblems (parameterPath i j ++ ".name") tool used ++
      p.bodyProblems limits (parameterPath i j)).filter (FieldError.isBelow i j) =
    constraintProblems (parameterPath i j) p.type p.constraints := by
  have hname := (under_nameProblems seen (.parameter i j .name) "Parameter name" "parameter" p.name
    limits.nameLength).filter_eq_nil (i := i) (j := j) fun h hh key => by
      rw [place_of_mem_nameHeadings hh]
      exact nofun
  have hshadow := (under_shadowProblems (.parameter i j .name) tool used).filter_eq_nil (i := i)
    (j := j) (by simp)
  have hplain := (under_plainProblems limits i j p).filter_eq_nil (i := i) (j := j) (by simp)
  rw [Parameter.bodyProblems_eq]
  simp only [List.filter_append, filter_constraintProblems]
  simp only [FieldPlace.path, ParameterPart.path] at hname hshadow hplain
  rw [hname, hshadow, hplain, List.nil_append, List.nil_append, List.nil_append]

theorem filter_parameterProblems [Pattern.SizeLimit] (limits : Limits) (i : Nat) (tool : Option String)
    (seen : List String) (j : Nat) (ps : List Parameter) {k : Nat} {p : Parameter}
    (hp : ps[k]? = some p) :
    (parameterProblems limits (toolPath i) tool seen j ps).filter (FieldError.isBelow i (j + k)) =
      constraintProblems (parameterPath i (j + k)) p.type p.constraints := by
  induction ps generalizing seen j k with
  | nil => cases hp
  | cons q rest ih =>
    rw [parameterProblems, ← parameterPath]
    dsimp only
    rw [List.filter_append]
    cases k with
    | zero =>
      obtain rfl := Option.some.inj hp
      rw [Nat.add_zero, filter_parameter, (under_parameterProblems ..).filter_eq_nil, List.append_nil]
      intro h hh key hplace
      obtain ⟨l, part, hpart, hle, -⟩ := mem_parametersHeadings hh
      have hindex := (FieldPlace.parameter.inj (hpart.symm.trans hplace)).2.1
      omega
    | succ k =>
      rw [(under_parameter ..).filter_eq_nil, List.nil_append, show j + (k + 1) = j + 1 + k by omega]
      · exact ih _ _ hp
      · intro h hh key hplace
        obtain ⟨part, hpart⟩ := mem_parameterHeadingsAt hh
        have hindex := (FieldPlace.parameter.inj (hpart.symm.trans hplace)).2.1
        omega

theorem filter_toolProblems [Pattern.SizeLimit] (limits : Limits) (seen : List String) (i j : Nat)
    (ts : List Tool)
    {k : Nat} {t : Tool} {p : Parameter} (ht : ts[k]? = some t) (hp : t.parameters[j]? = some p) :
    (toolProblems limits seen i ts).1.filter (FieldError.isBelow (i + k) j) =
      constraintProblems (parameterPath (i + k) j) p.type p.constraints := by
  induction ts generalizing seen i k with
  | nil => cases ht
  | cons u rest ih =>
    rw [toolProblems]
    dsimp only
    rw [List.filter_append]
    cases k with
    | zero =>
      -- The tool itself: what is left of its problems are those of the parameter.
      obtain rfl := Option.some.inj ht
      have hparameters := filter_parameterProblems limits i (nameProblems seen (toolPath i ++ ".name")
        "Tool name" "tool" u.name limits.nameLength).2 [] 0 u.parameters hp
      rw [Nat.zero_add] at hparameters
      rw [Tool.bodyProblems_eq, ← List.append_assoc, List.filter_append, Nat.add_zero, hparameters,
        (under_toolPlain ..).filter_eq_nil, (under_toolProblems ..).filter_eq_nil_of_toolIndex?,
        List.nil_append, List.append_nil]
      · intro h hh
        obtain ⟨l, v, -, hwithin⟩ := mem_toolsHeadings hh
        rw [hwithin.toolIndex?_eq, ne_eq, Option.some.injEq]
        omega
      · intro h hh key hplace
        obtain ⟨h, -, rfl⟩ := List.mem_map.mp hh
        cases hplace
    | succ k =>
      rw [(under_tool ..).filter_eq_nil_of_toolIndex?, List.nil_append,
        show i + (k + 1) = i + 1 + k by omega]
      · exact ih _ _ ht
      · intro h hh
        rw [(within_of_mem_toolHeadings hh).toolIndex?_eq, ne_eq, Option.some.injEq]
        omega

namespace Server

/-- The problems below the constraints of a parameter are those of its type and its constraints. -/
theorem constraintErrors_eq [Pattern.SizeLimit] (limits : Limits) (s : Server) {i j : Nat} {t : Tool}
    {p : Parameter} (ht : s.tools[i]? = some t) (hp : t.parameters[j]? = some p) :
    s.constraintErrors limits i j = constraintProblems (parameterPath i j) p.type p.constraints := by
  have htools := filter_toolProblems limits [] 0 j s.tools ht hp
  rw [Nat.zero_add] at htools
  have hclashes : (s.clashes limits).filter (FieldError.isBelow i j) = [] := by
    refine (s.under_clashes limits).filter_eq_nil fun h hh key => ?_
    obtain ⟨name, -, rfl⟩ := List.mem_map.mp hh
    exact nofun
  have hserver := (under_serverProblems limits s).filter_eq_nil_of_toolIndex? (i := i) (j := j) fun h hh => by
    rw [toolIndex?_of_mem_serverHeadings hh]
    exact nofun
  rw [constraintErrors, problems_eq, ownProblems, List.filter_append, List.filter_append, hserver,
    htools, hclashes, List.nil_append, List.append_nil]

/-- Each problem is reported at a place that the description has, and none is reported twice. What is
reported below the constraints of a parameter is the same in every description with a parameter of this
type and with these constraints at the same position, under all limits. -/
theorem problems_local [Pattern.SizeLimit] (limits : Limits) (s : Server) :
    (∀ e ∈ s.problems limits, ∃ p : FieldPlace, e.field = p.path ∧ p.IsIn s) ∧
      (s.problems limits).Nodup ∧
      ∀ (limits' : Limits) (s' : Server) (i j : Nat) (t t' : Tool) (p p' : Parameter),
        s.tools[i]? = some t → t.parameters[j]? = some p →
        s'.tools[i]? = some t' → t'.parameters[j]? = some p' →
        p.type = p'.type → p.constraints = p'.constraints →
          s.constraintErrors limits i j = s'.constraintErrors limits' i j := by
  have hunder : Under (s.problems limits) (s.headings ++ s.clashHeadings limits) :=
    (s.under_ownProblems limits).append (s.under_clashes limits)
  refine ⟨fun e he => ?_, hunder.nodup (s.apart_headings limits), ?_⟩
  · obtain ⟨h, hh, hb⟩ := hunder.exists_bears he
    refine ⟨h.place, hb.field_eq, ?_⟩
    rcases List.mem_append.mp hh with hh | hh
    · exact isIn_of_mem_headings hh
    · exact isIn_of_mem_clashHeadings hh
  · intro limits' s' i j t t' p p' ht hp ht' hp' htype hconstraints
    rw [constraintErrors_eq limits s ht hp, constraintErrors_eq limits' s' ht' hp', htype, hconstraints]

/-- A server with a tool of this name and a parameter whose constraints cannot be kept. -/
def withInverted (tool : String) : Server where
  name := "server"
  description := "texts"
  language := .python
  tools := [{
    name := tool
    description := "a tool"
    parameters := [{
      name := "query"
      type := .string
      description := "a text"
      constraints := some { minLength := some 5, maxLength := some 1, pattern := some "(" } }] }]

/-- The problems of a tool with a reserved name leave those of its parameter as they are elsewhere. -/
theorem problems_local_inverted :
    (∃ p : FieldPlace, "tools[0].parameters[0].constraints.pattern" = p.path ∧
        p.IsIn (withInverted "class")) ∧
      ((withInverted "class").problems {}).Nodup ∧
      (withInverted "class").constraintErrors {} 0 0 =
        (withInverted "search").constraintErrors { nameLength := 0 } 0 0 := by
  obtain ⟨hplace, hnodup, hsame⟩ := problems_local {} (withInverted "class")
  have hproblems : (withInverted "class").problems {} = [
      ⟨"tools[0].name", "Name \"class\" normalizes to the reserved word \"class\""⟩,
      ⟨"tools[0].parameters[0].constraints.minLength",
        "minLength (5) must not exceed maxLength (1)"⟩,
      ⟨"tools[0].parameters[0].constraints.pattern",
        "Invalid regular expression: error: unclosed group"⟩] := by
    rfl
  refine ⟨hplace ⟨"tools[0].parameters[0].constraints.pattern",
    "Invalid regular expression: error: unclosed group"⟩ ?_, hnodup, ?_⟩
  · rw [hproblems]
    exact .tail _ (.tail _ (.head _))
  · exact hsame { nameLength := 0 } (withInverted "search") 0 0 _ _ _ _ rfl rfl rfl rfl rfl rfl

end Server

end Scaffold
