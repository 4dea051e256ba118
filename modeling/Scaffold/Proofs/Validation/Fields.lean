import Scaffold.Proofs.Validation.Rules

namespace Scaffold

/-- A conditional problem is absent exactly when its condition fails. -/
@[simp] theorem problemIf_eq_nil_iff (condition : Bool) (field message : String) :
    problemIf condition field message = [] ↔ condition = false := by
  cases condition <;> simp [problemIf]

namespace Text

theorem allBlank_eq_false_iff (s : String) :
    allBlank s = false ↔ ∃ c ∈ s.toList, isBlank c = false := by
  simp only [allBlank, List.all_eq_false, Bool.not_eq_true]

theorem isIdentifier_eq_true_iff (s : String) : isIdentifier s = true ↔ IsIdentifier s := by
  unfold isIdentifier IsIdentifier
  cases hs : s.toList with
  | nil => simp only [Bool.false_eq_true, reduceCtorEq, false_and, exists_false]
  | cons c rest =>
    simp only [Bool.and_eq_true, Bool.or_eq_true, beq_iff_eq, List.all_eq_true]
    constructor
    · intro h
      exact ⟨c, rest, rfl, h⟩
    · rintro ⟨_, _, he, h⟩
      obtain ⟨rfl, rfl⟩ := List.cons_eq_cons.mp he
      exact h

theorem isDateForm_eq_true_iff (s : String) : isDateForm s.toList = true ↔ IsDateForm s := by
  unfold IsDateForm
  constructor
  · intro h
    unfold isDateForm at h
    split at h
    · next a b c d m e f n g h' hs =>
      simp only [Bool.and_eq_true, beq_iff_eq, List.all_eq_true] at h
      obtain ⟨⟨hd, rfl⟩, rfl⟩ := h
      exact ⟨a, b, c, d, e, f, g, h', hs, hd⟩
    · cases h
  · rintro ⟨a, b, c, d, e, f, g, h', hs, hd⟩
    rw [hs]
    simp only [isDateForm, beq_self_eq_true, Bool.and_true, List.all_eq_true]
    exact hd

end Text

theorem textProblems_eq_nil_iff (field label value : String) (limit : Nat) :
    textProblems field label value limit = [] ↔ Text.Fits limit value := by
  unfold textProblems
  cases hb : Text.allBlank value with
  | true =>
    have hn : ¬ Text.Fits limit value := fun h => by
      rw [(Text.allBlank_eq_false_iff value).mpr h.notBlank] at hb
      cases hb
    simp [hn]
  | false =>
    have hink := (Text.allBlank_eq_false_iff value).mp hb
    simp only [Bool.false_eq_true, if_false, problemIf_eq_nil_iff, decide_eq_false_iff_not, Nat.not_lt]
    exact ⟨fun h => ⟨hink, h⟩, fun h => h.length_le⟩

theorem nameFault?_eq_none_iff (seen : List String) (identifier : String) :
    nameFault? seen identifier = none ↔ Bindable identifier ∧ identifier ∉ seen := by
  unfold nameFault?
  constructor
  · intro h
    repeat' split at h
    all_goals cases h
    next hi hr hg hs =>
    simp only [Bool.not_eq_true', Bool.not_eq_false, List.contains_iff_mem] at hi hr hg hs
    exact ⟨⟨(Text.isIdentifier_eq_true_iff _).mp hi, hr, hg⟩, hs⟩
  · rintro ⟨⟨hi, hr, hg⟩, hs⟩
    simp [(Text.isIdentifier_eq_true_iff _).mpr hi, hr, hg, hs]

/-- A name without problems fits, can be bound and is new; then its identifier is handed on. -/
theorem nameProblems_fst_eq_nil_iff (seen : List String) (field label kind name : String)
    (limit : Nat) :
    (nameProblems seen field label kind name limit).1 = [] ↔
      Text.Fits limit name ∧ Bindable (Text.identifierOf name) ∧ Text.identifierOf name ∉ seen := by
  unfold nameProblems
  rw [← textProblems_eq_nil_iff field label, ← nameFault?_eq_none_iff]
  cases hb : Text.allBlank name with
  | true => simp [textProblems, hb]
  | false =>
    simp only [Bool.false_eq_true, if_false]
    split
    · next hf => simp [hf]
    · next hf => simp [hf]

theorem nameProblems_snd_of_nil {seen : List String} {field label kind name : String} {limit : Nat}
    (h : (nameProblems seen field label kind name limit).1 = []) :
    (nameProblems seen field label kind name limit).2 = some (Text.identifierOf name) := by
  obtain ⟨hfit, hb⟩ := (nameProblems_fst_eq_nil_iff ..).mp h
  have hf := (nameFault?_eq_none_iff ..).mpr hb
  simp [nameProblems, (Text.allBlank_eq_false_iff name).mpr hfit.notBlank, hf]

theorem lengthProblems_eq_nil_iff (path : String) (c : Constraints) :
    lengthProblems path c = [] ↔
      ∀ least ∈ c.minLength, ∀ most ∈ c.maxLength, least.toNat ≤ most.toNat := by
  unfold lengthProblems
  cases c.minLength <;> cases c.maxLength <;> simp [UInt64.lt_iff_toNat_lt]

theorem finiteProblems_eq_nil_iff (path key : String) (bound : Option Binary64) :
    finiteProblems path key bound = [] ↔ ∀ x ∈ bound, x.isFinite = true := by
  cases bound <;> simp [finiteProblems]

/-- Of two finite numbers the first exceeds the second unless its multiple of the least positive
number is no greater. -/
theorem Binary64.exceeds_eq_false_iff {x y : Binary64} (hx : x.isFinite = true)
    (hy : y.isFinite = true) :
    x.exceeds y = false ↔ ∀ m ∈ x.steps?, ∀ n ∈ y.steps?, m ≤ n := by
  cases x with
  | finite s a => cases y with
    | finite t b =>
      have he : (finite s a).exceeds (finite t b) =
          decide ((if t then -(b.steps : Int) else b.steps) <
            if s then -(a.steps : Int) else a.steps) := rfl
      simp only [he, steps?, Option.mem_def, Option.some.injEq, forall_eq',
        decide_eq_false_iff_not, Int.not_lt]
    | infinite => cases hy
    | nan => cases hy
  | infinite => cases hx
  | nan => cases hx

theorem orderProblems_eq_nil_iff (path : String) (c : Constraints)
    (hmin : ∀ x ∈ c.minimum, x.isFinite = true) (hmax : ∀ x ∈ c.maximum, x.isFinite = true) :
    orderProblems path c = [] ↔ ∀ least ∈ c.minimum, ∀ most ∈ c.maximum,
      ∀ m ∈ least.steps?, ∀ n ∈ most.steps?, m ≤ n := by
  unfold orderProblems
  cases hl : c.minimum with
  | none => simp
  | some least =>
    cases hm : c.maximum with
    | none => simp
    | some most =>
      simp only [problemIf_eq_nil_iff, Option.mem_def, Option.some.injEq, forall_eq']
      exact Binary64.exceeds_eq_false_iff (hmin least hl) (hmax most hm)

theorem patternProblems_eq_nil_iff [Pattern.SizeLimit] (path : String) (c : Constraints) :
    patternProblems path c = [] ↔ ∀ p ∈ c.pattern, Pattern.check p = .ok () := by
  unfold patternProblems
  cases c.pattern with
  | none => simp
  | some p => cases hp : Pattern.check p <;> simp [hp]

theorem allowedProblems_eq_nil_iff (path : String) (c : Constraints) :
    allowedProblems path c = [] ↔
      ∀ values ∈ c.allowed, ∀ v ∈ values, ∃ x ∈ v.toList, Text.isBlank x = false := by
  unfold allowedProblems
  cases c.allowed with
  | none => simp
  | some values =>
    simp only [problemIf_eq_nil_iff, Option.getD_some, List.any_eq_false, Bool.not_eq_true,
      Text.allBlank_eq_false_iff, Option.mem_def, Option.some.injEq, forall_eq']

theorem Constraints.mem_alternatives {c : Constraints} {values : List String} :
    values ∈ c.alternatives ↔ ∃ v vs, values = v :: vs ∧ c.allowed = some (v :: vs) := by
  unfold Constraints.alternatives
  split
  · next v vs h => simp [h, eq_comm]
  · next h =>
    simp only [Option.mem_def, reduceCtorEq, false_iff]
    rintro ⟨v, vs, rfl, ha⟩
    exact h v vs ha

theorem choiceFault?_eq_none_iff (c : Constraints) (raw : String) :
    choiceFault? c.alternatives raw = none ↔ ∀ values ∈ c.alternatives, raw ∈ values := by
  unfold choiceFault?
  cases c.alternatives <;> simp

theorem textFault?_eq_none_iff {type : ParamType} (c : Constraints) (s : String)
    (ht : type ≠ .array ∧ type ≠ .object ∧ type ≠ .enum) :
    textFault? type s = none ↔ (DefaultValue.string s).Suits c type := by
  cases type with
  | number =>
    simp only [textFault?, ite_eq_left_iff, reduceCtorEq, imp_false, Classical.not_not,
      Option.isSome_iff_exists]
    exact ⟨.numberText, fun h => by cases h with | text h => cases h | numberText h => exact h⟩
  | integer =>
    simp only [textFault?, ite_eq_left_iff, reduceCtorEq, imp_false, Classical.not_not,
      Option.isSome_iff_exists]
    exact ⟨.integerText, fun h => by cases h with | text h => cases h | integerText h => exact h⟩
  | boolean =>
    simp only [textFault?, ite_eq_left_iff, reduceCtorEq, imp_false, Classical.not_not]
    exact ⟨.boolText, fun h => by cases h with | text h => cases h | boolText h => exact h⟩
  | date =>
    simp only [textFault?, ite_eq_left_iff, reduceCtorEq, imp_false, Classical.not_not,
      Text.isDateForm_eq_true_iff]
    exact ⟨.date, fun h => by cases h with | text h => cases h | date h => exact h⟩
  | array => exact absurd rfl ht.1
  | object => exact absurd rfl ht.2.1
  | enum => exact absurd rfl ht.2.2
  | string | email | url | unknown => exact iff_of_true rfl (.text rfl)

theorem numberFault?_eq_none_iff {type : ParamType} (c : Constraints) (n : JsonNumber)
    (ht : type ≠ .array ∧ type ≠ .object ∧ type ≠ .enum) :
    numberFault? type n = none ↔ (DefaultValue.number n).Suits c type := by
  cases type with
  | number => exact iff_of_true rfl (.number n)
  | integer =>
    simp only [numberFault?, ite_eq_left_iff, reduceCtorEq, imp_false, Classical.not_not]
    exact ⟨.integer, fun h => by cases h with | text h => cases h | integer h => exact h⟩
  | boolean | date =>
    exact iff_of_false nofun fun h => by cases h with | text h => cases h
  | array => exact absurd rfl ht.1
  | object => exact absurd rfl ht.2.1
  | enum => exact absurd rfl ht.2.2
  | string | email | url | unknown => exact iff_of_true rfl (.text rfl)

theorem boolFault?_eq_none_iff {type : ParamType} (c : Constraints) (b : Bool)
    (ht : type ≠ .array ∧ type ≠ .object ∧ type ≠ .enum) :
    boolFault? type = none ↔ (DefaultValue.bool b).Suits c type := by
  cases type with
  | number | integer | date =>
    exact iff_of_false nofun fun h => by cases h with | text h => cases h
  | boolean => exact iff_of_true rfl (.bool b)
  | array => exact absurd rfl ht.1
  | object => exact absurd rfl ht.2.1
  | enum => exact absurd rfl ht.2.2
  | string | email | url | unknown => exact iff_of_true rfl (.text rfl)

/-- A default has no fault exactly when it can be written as a literal of the type. -/
theorem defaultFault?_eq_none_iff (type : ParamType) (c : Constraints) (v : DefaultValue) :
    defaultFault? type c v = none ↔ v.Suits c type := by
  unfold defaultFault?
  split
  · next h =>
    refine iff_of_false nofun fun hs => ?_
    rcases h with rfl | rfl <;> cases hs with | text h => cases h
  · next hcol =>
    split
    · next he =>
      subst he
      rw [choiceFault?_eq_none_iff]
      exact ⟨.choice, fun h => by cases h with | text h => cases h | choice h => exact h⟩
    · next he =>
      have ht : type ≠ .array ∧ type ≠ .object ∧ type ≠ .enum :=
        ⟨fun h => hcol (.inl h), fun h => hcol (.inr h), he⟩
      cases v with
      | string s => exact textFault?_eq_none_iff c s ht
      | number n => exact numberFault?_eq_none_iff c n ht
      | bool b => exact boolFault?_eq_none_iff c b ht

theorem defaultProblems_eq_nil_iff (path : String) (type : ParamType) (c : Constraints) :
    defaultProblems path type c = [] ↔ ∀ v ∈ c.default, v.Suits c type := by
  unfold defaultProblems
  cases c.default with
  | none => simp
  | some v =>
    simp only [Option.bind_some, Option.mem_def, Option.some.injEq, forall_eq',
      ← defaultFault?_eq_none_iff]
    cases defaultFault? type c v <;> simp

/-- Constraints have no problems exactly when they are consistent. -/
theorem Constraints.problems_eq_nil_iff [Pattern.SizeLimit] (path : String) (type : ParamType)
    (c : Constraints) :
    c.problems path type = [] ↔ c.Consistent type := by
  simp only [Constraints.problems, List.append_eq_nil_iff, lengthProblems_eq_nil_iff,
    finiteProblems_eq_nil_iff, patternProblems_eq_nil_iff, allowedProblems_eq_nil_iff,
    defaultProblems_eq_nil_iff]
  constructor
  · rintro ⟨⟨⟨⟨⟨⟨hl, hmin⟩, hmax⟩, ho⟩, hp⟩, ha⟩, hd⟩
    exact ⟨hl, hmin, hmax, (orderProblems_eq_nil_iff path c hmin hmax).mp ho, hp, ha, hd⟩
  · intro h
    have ho := (orderProblems_eq_nil_iff path c h.minimum_finite h.maximum_finite).mpr h.bounds_le
    exact ⟨⟨⟨⟨⟨⟨h.lengths_le, h.minimum_finite⟩, h.maximum_finite⟩, ho⟩, h.pattern_ok⟩,
      h.allowed_notBlank⟩, h.default_suits⟩

end Scaffold
