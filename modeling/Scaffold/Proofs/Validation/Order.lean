import Scaffold.Pattern.Estimate
import Scaffold.Proofs.Validation.Accepted
import Scaffold.Proofs.Validation.Report

namespace Scaffold

/-- A problem that may stand before another one in the order of the document. -/
def FieldError.NotAfter (e f : FieldError) : Prop :=
  ∃ p q : FieldPlace, e.field = p.path ∧ f.field = q.path ∧ p.NotAfter q

/-- Problems in the order of the document: the name of the server, its description, its tools as a whole
and then the single tools, with indices that never decrease. -/
def InDocumentOrder (errors : List FieldError) : Prop := errors.Pairwise FieldError.NotAfter

/-- The tool has an identifier that can be bound. -/
structure Tool.Offers (t : Tool) (identifier : String) : Prop where
  notBlank : ∃ c ∈ t.name.toList, Text.isBlank c = false
  identifier_eq : t.identifier = identifier
  bindable : Bindable identifier

namespace Server

/-- The tool at an index is the first one with its identifier. -/
def Declares (s : Server) (i : Nat) (identifier : String) : Prop :=
  ∃ t, s.tools[i]? = some t ∧ t.Offers identifier ∧ ∀ u ∈ s.tools.take i, ¬u.Offers identifier

/-- The tool at an index has the name of the model or of the schema of a tool. -/
def Clashes (s : Server) (i : Nat) : Prop :=
  ∃ identifier, s.Declares i identifier ∧ ∃ k owner, s.Declares k owner ∧
    (identifier = owner ++ "_params" ∨ identifier = owner ++ "_schema")

end Server

theorem nameProblems_snd_eq_some_iff (t : Tool) (seen : List String) (field label kind x : String)
    (limit : Nat) :
    (nameProblems seen field label kind t.name limit).2 = some x ↔ t.Offers x ∧ x ∉ seen := by
  have hoffers : t.Offers x ∧ x ∉ seen ↔ Text.allBlank t.name = false ∧
      t.identifier = x ∧ nameFault? seen x = none := by
    rw [nameFault?_eq_none_iff, Text.allBlank_eq_false_iff]
    exact ⟨fun ⟨h, hnew⟩ => ⟨h.notBlank, h.identifier_eq, h.bindable, hnew⟩,
      fun ⟨hb, he, hbind, hnew⟩ => ⟨⟨hb, he, hbind⟩, hnew⟩⟩
  rw [hoffers]
  unfold nameProblems
  cases hblank : Text.allBlank t.name with
  | true => simp
  | false =>
    simp only [Bool.false_eq_true, if_false, true_and]
    split
    · next fault hfault =>
      refine iff_of_false nofun ?_
      rintro ⟨rfl, hnone⟩
      rw [Tool.identifier, hfault] at hnone
      cases hnone
    · next hnone =>
      rw [Option.some.injEq]
      exact ⟨fun h => ⟨h, h ▸ hnone⟩, fun h => h.1⟩

/-- The identifiers seen behind a tool are those seen before it and the one it declares. -/
theorem not_mem_seen_iff (t : Tool) (seen : List String) (field label kind x : String) (limit : Nat) :
    x ∉ (nameProblems seen field label kind t.name limit).2.toList ++ seen ↔
      ¬t.Offers x ∧ x ∉ seen := by
  rw [List.mem_append, Option.mem_toList, nameProblems_snd_eq_some_iff, not_or, not_and_not_right]
  exact ⟨fun ⟨h, hnew⟩ => ⟨fun ho => hnew (h ho), hnew⟩, fun ⟨h, hnew⟩ => ⟨fun ho => absurd ho h, hnew⟩⟩

/-- The names that are looked at for clashes: of each identifier the first tool that has it. -/
theorem mem_toolProblems_snd_iff [Pattern.SizeLimit] (limits : Limits) (seen : List String) (i : Nat)
    (ts : List Tool) (n : Nat) (x : String) :
    (n, x) ∈ (toolProblems limits seen i ts).2 ↔
      ∃ k t, n = i + k ∧ ts[k]? = some t ∧ t.Offers x ∧ (∀ u ∈ ts.take k, ¬u.Offers x) ∧ x ∉ seen := by
  induction ts generalizing seen i with
  | nil => simp [toolProblems]
  | cons t rest ih =>
    rw [toolProblems, List.mem_append, ih]
    simp only [List.mem_map, Option.mem_toList, nameProblems_snd_eq_some_iff, not_mem_seen_iff,
      Prod.mk.injEq]
    constructor
    · rintro (⟨y, ⟨ho, hnew⟩, rfl, rfl⟩ | ⟨k, u, rfl, hu, ho, hfirst, hnot, hnew⟩)
      · exact ⟨0, t, rfl, rfl, ho, by simp, hnew⟩
      · refine ⟨k + 1, u, by omega, hu, ho, ?_, hnew⟩
        rw [List.take_succ_cons]
        exact List.forall_mem_cons.mpr ⟨hnot, hfirst⟩
    · rintro ⟨k, u, rfl, hu, ho, hfirst, hnew⟩
      cases k with
      | zero =>
        obtain rfl := Option.some.inj hu
        exact .inl ⟨x, ⟨ho, hnew⟩, rfl, rfl⟩
      | succ k =>
        rw [List.take_succ_cons] at hfirst
        obtain ⟨hnot, hfirst⟩ := List.forall_mem_cons.mp hfirst
        exact .inr ⟨k, u, by omega, hu, ho, hfirst, hnot, hnew⟩

/-- Some problem is reported at the tool with the index or at one of its parameters. -/
def ReportedAt (n : Nat) (errors : List FieldError) : Prop :=
  ∃ e ∈ errors, ∃ p : FieldPlace, e.field = p.path ∧ p.toolIndex? = some n

theorem reportedAt_append {n : Nat} {es fs : List FieldError} :
    ReportedAt n (es ++ fs) ↔ ReportedAt n es ∨ ReportedAt n fs := by
  simp only [ReportedAt, List.mem_append, or_and_right, exists_or]

theorem reportedAt_flatMap {α : Type} {n : Nat} {f : α → List FieldError} {as : List α} :
    ReportedAt n (as.flatMap f) ↔ ∃ a ∈ as, ReportedAt n (f a) := by
  simp only [ReportedAt, List.mem_flatMap]
  constructor
  · rintro ⟨e, ⟨a, ha, he⟩, hp⟩
    exact ⟨a, ha, e, he, hp⟩
  · rintro ⟨a, ha, e, he, hp⟩
    exact ⟨e, ⟨a, ha, he⟩, hp⟩

theorem Under.exists_of_reportedAt {n : Nat} {es : List FieldError} {hs : List (Heading FieldPlace)}
    (hu : Under es hs) (h : ReportedAt n es) : ∃ k ∈ hs, k.place.toolIndex? = some n := by
  obtain ⟨e, he, p, hp, hn⟩ := h
  obtain ⟨k, hk, hb⟩ := hu.exists_bears he
  have hplace : k.place = p := FieldPlace.path_injective (hb.field_eq.symm.trans hp)
  exact ⟨k, hk, hplace ▸ hn⟩

/-- Problems under headings of one tool are reported at that tool, if there are any. -/
theorem Under.reportedAt_iff {n m : Nat} {es : List FieldError} {hs : List (Heading FieldPlace)}
    (hu : Under es hs) (hm : ∀ k ∈ hs, k.place.toolIndex? = some m) :
    ReportedAt n es ↔ n = m ∧ es ≠ [] := by
  constructor
  · intro h
    obtain ⟨k, hk, hn⟩ := hu.exists_of_reportedAt h
    obtain ⟨e, he, -⟩ := h
    rw [hm k hk] at hn
    exact ⟨(Option.some.inj hn).symm, List.ne_nil_of_mem he⟩
  · rintro ⟨rfl, hne⟩
    obtain ⟨e, he⟩ := List.exists_mem_of_ne_nil es hne
    obtain ⟨k, hk, hb⟩ := hu.exists_bears he
    exact ⟨e, he, k.place, hb.field_eq, hm k hk⟩

/-- No problem is reported at an index that no tool has. -/
theorem not_reportedAt_toolProblems [Pattern.SizeLimit] (limits : Limits) (seen : List String) (i : Nat)
    (ts : List Tool) {n : Nat} (hn : n < i) : ¬ReportedAt n (toolProblems limits seen i ts).1 := by
  intro h
  obtain ⟨k, hk, hindex⟩ := (under_toolProblems limits seen i ts).exists_of_reportedAt h
  obtain ⟨l, t, -, hwithin⟩ := mem_toolsHeadings hk
  rw [hwithin.toolIndex?_eq] at hindex
  have heq := Option.some.inj hindex
  omega

/-- A tool has problems of its own unless it keeps the rules and its name is new. -/
theorem reportedAt_toolProblems_iff [Pattern.SizeLimit] (limits : Limits) (seen : List String) (i : Nat)
    (ts : List Tool) {k : Nat} {t : Tool} (ht : ts[k]? = some t) :
    ReportedAt (i + k) (toolProblems limits seen i ts).1 ↔
      ¬(t.Valid limits ∧ t.identifier ∉ seen ∧ ∀ u ∈ ts.take k, ¬u.Offers t.identifier) := by
  induction ts generalizing seen i k with
  | nil => cases ht
  | cons u rest ih =>
    have hhead (n : Nat) := Under.reportedAt_iff (n := n) (m := i)
      (under_tool limits i seen u (nameProblems seen (toolPath i ++ ".name") "Tool name" "tool" u.name
        limits.nameLength).2) fun h hh => (within_of_mem_toolHeadings hh).toolIndex?_eq
    rw [toolProblems]
    dsimp only
    rw [reportedAt_append, hhead]
    cases k with
    | zero =>
      obtain rfl := Option.some.inj ht
      have hrest := not_reportedAt_toolProblems limits
        ((nameProblems seen (toolPath i ++ ".name") "Tool name" "tool" u.name
          limits.nameLength).2.toList ++ seen) (i + 1) rest (Nat.lt_succ_self i)
      simp only [Nat.add_zero, hrest, or_false, true_and, ne_eq, List.append_eq_nil_iff,
        toolProblems_head_eq_nil_iff, List.take_zero, List.not_mem_nil, false_imp_iff, implies_true,
        and_true]
    | succ k =>
      rw [show i + (k + 1) = i + 1 + k by omega, ih _ _ ht, not_mem_seen_iff, List.take_succ_cons,
        List.forall_mem_cons]
      have hne : i + 1 + k ≠ i := by omega
      simp only [hne, false_and, false_or]
      tauto

theorem reportedAt_clashProblems_iff (names : List (Nat × String)) (n : Nat) :
    ReportedAt n (clashProblems names) ↔
      ∃ x, (n, x) ∈ names ∧ ∃ owner ∈ names, isGeneratedFor owner.2 x = true := by
  rw [clashProblems, reportedAt_flatMap]
  constructor
  · rintro ⟨⟨m, x⟩, hx, e, he, p, hp, hn⟩
    dsimp only at he
    split at he
    · next i owner hfind =>
      obtain rfl := List.mem_singleton.mp he
      have hplace : p = .tool m .name := FieldPlace.path_injective hp.symm
      rw [hplace] at hn
      obtain rfl : m = n := Option.some.inj hn
      have hgenerated := List.find?_some hfind
      exact ⟨x, hx, (i, owner), List.mem_of_find?_eq_some hfind, hgenerated⟩
    · cases he
  · rintro ⟨x, hx, owner, howner, hgenerated⟩
    refine ⟨(n, x), hx, ?_⟩
    dsimp only
    split
    · exact ⟨_, List.mem_singleton_self _, .tool n .name, rfl, rfl⟩
    · next hnone => exact absurd hgenerated (List.find?_eq_none.mp hnone owner howner)

theorem Under.inDocumentOrder {es : List FieldError} {hs : List (Heading FieldPlace)} (hu : Under es hs)
    (hp : hs.Pairwise Heading.Before) : InDocumentOrder es :=
  hu.pairwise (fun hb he hf => ⟨_, _, he.field_eq, hf.field_eq, hb.notAfter⟩) hp

namespace Server

theorem inDocumentOrder_ownProblems [Pattern.SizeLimit] (limits : Limits) (s : Server) :
    InDocumentOrder (s.ownProblems limits) :=
  (under_ownProblems limits s).inDocumentOrder s.before_headings

theorem inDocumentOrder_clashes [Pattern.SizeLimit] (limits : Limits) (s : Server) : InDocumentOrder
    (s.clashes limits) :=
  (s.under_clashes limits).inDocumentOrder (s.before_clashHeadings limits)

theorem mem_names_iff [Pattern.SizeLimit] (limits : Limits) (s : Server) (n : Nat) (x : String) :
    (n, x) ∈ (toolProblems limits [] 0 s.tools).2 ↔ s.Declares n x := by
  rw [mem_toolProblems_snd_iff]
  constructor
  · rintro ⟨k, t, rfl, ht, ho, hfirst, -⟩
    rw [Nat.zero_add]
    exact ⟨t, ht, ho, hfirst⟩
  · rintro ⟨t, ht, ho, hfirst⟩
    exact ⟨n, t, (Nat.zero_add n).symm, ht, ho, hfirst, List.not_mem_nil⟩

/-- A clash is reported at a tool exactly when its name clashes. -/
theorem reportedAt_clashes_iff [Pattern.SizeLimit] (limits : Limits) (s : Server) (n : Nat) :
    ReportedAt n (s.clashes limits) ↔ s.Clashes n := by
  have hgenerated (owner x : String) : isGeneratedFor owner x = true ↔
      x = owner ++ "_params" ∨ x = owner ++ "_schema" := by
    simp [isGeneratedFor, generatedEndings]
  simp only [clashes, reportedAt_clashProblems_iff, Clashes, mem_names_iff, Prod.exists, hgenerated]

/-- A problem of its own is reported at a tool unless the tool keeps its rules and is the first one with
its identifier. -/
theorem reportedAt_ownProblems_iff [Pattern.SizeLimit] (limits : Limits) (s : Server) {n : Nat} {t : Tool}
    (ht : s.tools[n]? = some t) :
    ReportedAt n (s.ownProblems limits) ↔ ¬(t.Valid limits ∧ s.Declares n t.identifier) := by
  have htools := reportedAt_toolProblems_iff limits [] 0 s.tools ht
  rw [Nat.zero_add] at htools
  have hserver : ¬ReportedAt n (textProblems "serverName" "Server name" s.name limits.nameLength ++
      textProblems "description" "Description" s.description limits.descriptionLength ++
      countProblems limits s.tools) := by
    intro h
    obtain ⟨k, hk, hn⟩ := (under_serverProblems limits s).exists_of_reportedAt h
    rw [toolIndex?_of_mem_serverHeadings hk] at hn
    cases hn
  rw [ownProblems, reportedAt_append, htools, or_iff_right hserver]
  refine not_congr (and_congr_right fun hv => ?_)
  constructor
  · rintro ⟨-, hfirst⟩
    exact ⟨t, ht, ⟨hv.name_fits.notBlank, rfl, hv.bindable⟩, hfirst⟩
  · rintro ⟨u, hu, -, hfirst⟩
    exact ⟨List.not_mem_nil, hfirst⟩

/-- The problems of a description are listed in the order of the document exactly when no tool with a
clashing name stands before a tool that breaks its rules or repeats a name. -/
theorem inDocumentOrder_problems_iff [Pattern.SizeLimit] (limits : Limits) (s : Server) :
    InDocumentOrder (s.problems limits) ↔
      ∀ i j, i < j → s.Clashes i → ∀ t, s.tools[j]? = some t →
        t.Valid limits ∧ s.Declares j t.identifier := by
  -- Both parts are in order on their own, so only their join can break it.
  have hsplit : InDocumentOrder (s.problems limits) ↔
      ∀ e ∈ s.ownProblems limits, ∀ c ∈ s.clashes limits, e.NotAfter c := by
    rw [problems_eq, InDocumentOrder, List.pairwise_append]
    exact ⟨fun h => h.2.2,
      fun h => ⟨s.inDocumentOrder_ownProblems limits, s.inDocumentOrder_clashes limits, h⟩⟩
  rw [hsplit]
  constructor
  -- A problem at the later tool `j` would stand before the clash at `i`.
  · intro h i j hij hclash t ht
    by_contra hbad
    obtain ⟨e, he, p, hp, hj⟩ := (reportedAt_ownProblems_iff limits s ht).mpr hbad
    obtain ⟨c, hc, q, hq, hi⟩ := (reportedAt_clashes_iff limits s i).mpr hclash
    obtain ⟨p', q', hp', hq', hle⟩ := h e he c hc
    obtain rfl : p = p' := FieldPlace.path_injective (hp.symm.trans hp')
    obtain rfl : q = q' := FieldPlace.path_injective (hq.symm.trans hq')
    have hji := hle.toolIndex_le j hj i hi
    omega
  -- A problem at a tool behind the one that clashes would be a broken rule there.
  · intro h e he c hc
    obtain ⟨k, hk, hb⟩ := (under_ownProblems limits s).exists_bears he
    obtain ⟨l, hl, hb'⟩ := (s.under_clashes limits).exists_bears hc
    obtain ⟨⟨i, x⟩, -, rfl⟩ := List.mem_map.mp hl
    refine ⟨k.place, .tool i .name, hb.field_eq, hb'.field_eq, ?_⟩
    refine FieldPlace.notAfter_tool_of_le (fun j hj => ?_) .name
    by_contra hlt
    obtain ⟨t, ht⟩ := (isIn_of_mem_headings hk).exists_tool hj
    have hclash : s.Clashes i :=
      (reportedAt_clashes_iff limits s i).mp ⟨c, hc, .tool i .name, hb'.field_eq, rfl⟩
    have hown : ReportedAt j (s.ownProblems limits) := ⟨e, he, k.place, hb.field_eq, hj⟩
    exact (reportedAt_ownProblems_iff limits s ht).mp hown (h i j (by omega) hclash t ht)

/-- A server whose first tool has the name of the model of the second one, which has no description. -/
def clashing : Server where
  name := "server"
  description := "two tools"
  language := .python
  tools := [
    { name := "search params", description := "a tool" },
    { name := "search" }]

/-- So the problems are not always listed in the order of the document: here the clash of the first tool
is listed behind the missing description of the second one. -/
theorem not_forall_inDocumentOrder_problems :
    ¬∀ (limits : Limits) (s : Server), InDocumentOrder (s.problems limits) := by
  intro h
  have hproblems : clashing.problems {} = [
      ⟨"tools[1].description", "Tool description is required"⟩,
      ⟨"tools[0].name", "Tool name \"search_params\" collides with a generated name of tool \"search\""⟩] := by
    rfl
  have horder := h {} clashing
  rw [hproblems] at horder
  obtain ⟨p, q, hp, hq, hle⟩ := (List.pairwise_cons.mp horder).1 _ List.mem_cons_self
  obtain rfl : p = .tool 1 .description := FieldPlace.path_injective (hp.symm.trans rfl)
  obtain rfl : q = .tool 0 .name := FieldPlace.path_injective (hq.symm.trans rfl)
  exact absurd hle (by decide)

end Server

end Scaffold
