import Mathlib.Data.List.Forall2
import Scaffold.Proofs.Source.FreeText
import Scaffold.Source.Emit

namespace Scaffold

/-- Names that stand in the order of these kinds, each kind with its names. At most one name is of each
kind. -/
inductive InOrder : (kinds : List (List String)) → (names : List String) → Prop
  | nil : InOrder [] []
  | skip {kind : List String} {kinds : List (List String)} {names : List String} :
    InOrder kinds names → InOrder (kind :: kinds) names
  | take {kind : List String} {kinds : List (List String)} {name : String} {names : List String} :
    name ∈ kind → InOrder kinds names → InOrder (kind :: kinds) (name :: names)

namespace InOrder

variable {kind : List String} {kinds kinds' : List (List String)} {names names' : List String}

theorem append (h : InOrder kinds names) (h' : InOrder kinds' names') :
    InOrder (kinds ++ kinds') (names ++ names') := by
  induction h with
  | nil => exact h'
  | skip _ ih => exact ih.skip
  | take hname _ ih => exact ih.take hname

/-- There may be no names at all. -/
theorem none (kinds : List (List String)) : InOrder kinds [] := by
  induction kinds with
  | nil => exact .nil
  | cons kind kinds ih => exact ih.skip

/-- An optional piece of one name. -/
theorem option {α : Type} {o : Option α} {f : α → String} {nameOf : String → String} {name : String}
    (h : ∀ a, nameOf (f a) = name) : InOrder [[name]] ((o.map f).toList.map nameOf) := by
  cases o with
  | none => exact .none _
  | some a => exact InOrder.nil.take (List.mem_singleton.mpr (h a))

/-- What is known of all names of the kinds is known of the names in their order. -/
theorem forall_mem (h : InOrder kinds names) {q : String → Bool}
    (hkinds : (kinds.all fun kind => kind.all q) = true) : ∀ name ∈ names, q name = true := by
  induction h with
  | nil => exact fun name hname => absurd hname List.not_mem_nil
  | skip _ ih => exact ih (Bool.and_eq_true_iff.mp hkinds).2
  | take hfirst _ ih =>
    obtain ⟨hkind, hrest⟩ := Bool.and_eq_true_iff.mp hkinds
    exact List.forall_mem_cons.mpr ⟨List.all_eq_true.mp hkind _ hfirst, ih hrest⟩

end InOrder

/-- A beginning is read to the same end, whatever stands behind it, if the reader stops in it. -/
theorem takeWhile_append_of_mem {p : Char → Bool} {as : List Char} {c : Char} (hc : c ∈ as)
    (hp : p c = false) (bs : List Char) : (as ++ bs).takeWhile p = as.takeWhile p := by
  induction as with
  | nil => cases hc
  | cons a as ih =>
    rw [List.cons_append, List.takeWhile_cons, List.takeWhile_cons]
    split
    · next ha =>
      rcases List.mem_cons.mp hc with rfl | hc
      · rw [hp] at ha
        cases ha
      · rw [ih hc]
    · rfl

namespace Python

/-- The keyword of a field argument: what stands before the equals sign. -/
def keywordOf (piece : String) : String := String.ofList (piece.toList.takeWhile (· != '='))

/-- The keywords of field arguments in their order: length, pattern, bounds, default. -/
def keywordKinds : List (List String) :=
  [["min_length"], ["max_length"], ["regex"], ["ge"], ["le"], ["default"]]

theorem keywordOf_append {s : String} (h : '=' ∈ s.toList) (t : String) :
    keywordOf (s ++ t) = keywordOf s := by
  rw [keywordOf, String.toList_append, takeWhile_append_of_mem h rfl]
  rfl

/-- An optional field argument of one keyword. -/
theorem inOrder_argument {before keyword : String} (hequals : '=' ∈ before.toList)
    (hkeyword : keywordOf before = keyword) {α : Type} {o : Option α} {f : α → String} :
    InOrder [[keyword]] ((o.map fun a => before ++ f a).toList.map keywordOf) :=
  .option fun a => (keywordOf_append hequals (f a)).trans hkeyword

/-- The field arguments before the default stand in order. -/
theorem inOrder_checkArguments (type : ParamType) (c : Constraints) :
    InOrder [["min_length"], ["max_length"], ["regex"], ["ge"], ["le"]]
      (((if type.isStringLike then textArguments c else []) ++
        (if type.isNumeric then boundArguments c else [])).map keywordOf) := by
  have htext : InOrder [["min_length"], ["max_length"], ["regex"]]
      ((if type.isStringLike then textArguments c else []).map keywordOf) := by
    split
    · simp only [textArguments, List.map_append]
      exact ((inOrder_argument (by decide) (by decide)).append
        (inOrder_argument (by decide) (by decide))).append (inOrder_argument (by decide) (by decide))
    · exact .none _
  have hbounds : InOrder [["ge"], ["le"]]
      ((if type.isNumeric then boundArguments c else []).map keywordOf) := by
    split
    · rw [boundArguments, List.map_append]
      exact (inOrder_argument (by decide) (by decide)).append (inOrder_argument (by decide) (by decide))
    · exact .none _
  rw [List.map_append]
  exact htext.append hbounds

/-- Field arguments stand in order. -/
theorem inOrder_arguments (type : ParamType) (c : Constraints) :
    InOrder keywordKinds ((arguments type c).map keywordOf) := by
  have hdefault : InOrder [["default"]] ((defaultArguments type c).map keywordOf) :=
    inOrder_argument (by decide) (by decide)
  rw [arguments, List.map_append]
  exact (inOrder_checkArguments type c).append hdefault

theorem inOrder_parts (p : Parameter) : InOrder keywordKinds ((fragment p).parts.map keywordOf) := by
  unfold fragment
  cases p.constraints with
  | none => exact .none _
  | some c => exact inOrder_arguments p.type c

end Python

namespace TypeScript

/-- The name of a call in a chain: what stands between the point and the bracket. -/
def callOf (piece : String) : String := String.ofList ((piece.toList.drop 1).takeWhile (· != '('))

/-- The names of calls in their order: length, pattern, format, bounds, and last the default or the leave
to omit the value. -/
def callKinds : List (List String) :=
  [["min"], ["max"], ["regex"], ["email", "url", "int"], ["gte"], ["lte"], ["default", "optional"]]

theorem callOf_append {s : String} (h : '(' ∈ s.toList.drop 1) (t : String) :
    callOf (s ++ t) = callOf s := by
  -- The point that is dropped is one of `s`.
  have hlength : 1 ≤ s.toList.length := by
    by_contra hshort
    rw [List.drop_eq_nil_of_le (by omega)] at h
    cases h
  rw [callOf, String.toList_append, List.drop_append_of_le_length hlength,
    takeWhile_append_of_mem h rfl]
  rfl

theorem callOf_defaultCall (type : ParamType) (v : DefaultValue) :
    callOf (defaultCall type v) = "default" := by
  unfold defaultCall
  dsimp only
  split
  · rw [String.append_assoc, callOf_append (by decide)]
    rfl
  · rw [String.append_assoc, callOf_append (by decide)]
    rfl

/-- An optional call of one name. -/
theorem inOrder_call {before after name : String} (hbracket : '(' ∈ before.toList.drop 1)
    (hname : callOf before = name) {α : Type} {o : Option α} {f : α → String} :
    InOrder [[name]] ((o.map fun a => before ++ f a ++ after).toList.map callOf) :=
  .option fun a => by rw [String.append_assoc, callOf_append hbracket, hname]

/-- The calls before the last kind stand in order. -/
theorem inOrder_checkCalls (type : ParamType) (c : Constraints) :
    InOrder [["min"], ["max"], ["regex"], ["email", "url", "int"], ["gte"], ["lte"]]
      (((if type.isStringLike then textCalls c else []) ++ (formatCall? type).toList ++
        (if type.isNumeric then boundCalls c else [])).map callOf) := by
  have htext : InOrder [["min"], ["max"], ["regex"]]
      ((if type.isStringLike then textCalls c else []).map callOf) := by
    split
    · simp only [textCalls, List.map_append]
      exact ((inOrder_call (by decide) (by decide)).append (inOrder_call (by decide) (by decide))).append
        (inOrder_call (by decide) (by decide))
    · exact .none _
  have hformat : InOrder [["email", "url", "int"]] ((formatCall? type).toList.map callOf) := by
    cases type
    case email | url | integer => exact InOrder.nil.take (by decide)
    all_goals exact .none _
  have hbounds : InOrder [["gte"], ["lte"]]
      ((if type.isNumeric then boundCalls c else []).map callOf) := by
    split
    · rw [boundCalls, List.map_append]
      exact (inOrder_call (by decide) (by decide)).append (inOrder_call (by decide) (by decide))
    · exact .none _
  simp only [List.map_append]
  exact (htext.append hformat).append hbounds

/-- Calls stand in order. -/
theorem inOrder_calls (type : ParamType) (c : Constraints) :
    InOrder callKinds ((calls type c).map callOf) := by
  have homission : InOrder [["default", "optional"]] ((omissionCall? type c).toList.map callOf) := by
    unfold omissionCall?
    cases c.default with
    | some v =>
      refine InOrder.nil.take ?_
      rw [callOf_defaultCall]
      decide
    | none =>
      dsimp only
      split
      · exact InOrder.nil.take (by decide)
      · exact .none _
  rw [calls, List.map_append]
  exact (inOrder_checkCalls type c).append homission

theorem inOrder_parts (p : Parameter) : InOrder callKinds ((fragment p).parts.map callOf) := by
  unfold fragment
  cases p.constraints with
  | none =>
    dsimp only
    rw [← calls_empty]
    exact inOrder_calls p.type {}
  | some c => exact inOrder_calls p.type c

/-- The calls that Python has nothing for. -/
def ownCalls : List String := [".email()", ".url()", ".int()", ".optional()"]

/-- A call is known by its name. -/
theorem contains_ownCalls_eq_false {piece : String}
    (h : ["email", "url", "int", "optional"].contains (callOf piece) = false) :
    ownCalls.contains piece = false := by
  have hown : (ownCalls.all fun own => ["email", "url", "int", "optional"].contains (callOf own)) =
      true := by decide
  by_contra hpiece
  rw [Bool.not_eq_false, List.contains_iff_mem] at hpiece
  rw [List.all_eq_true.mp hown piece hpiece] at h
  cases h

end TypeScript

/-- One literal in the two languages: the same text, but for the spelling of truth values. -/
def SameLiteral (script python : String) : Prop :=
  script = python ∨ ∃ b, script = boolText b ∧ python = Python.boolLiteral b

/-- A default is one literal in the two languages. -/
theorem sameLiteral_literal (type : ParamType) (v : DefaultValue) :
    SameLiteral (v.literal type boolText) (v.literal type Python.boolLiteral) := by
  unfold DefaultValue.literal
  split
  · exact .inl rfl
  · split
    · exact .inr ⟨_, rfl, rfl⟩
    · exact .inr ⟨true, rfl, rfl⟩
    · exact .inr ⟨false, rfl, rfl⟩
    · exact .inl rfl

/-- A call of TypeScript and the field argument of Python that a constraint on a parameter of this type
comes to. -/
inductive Corresponds (type : ParamType) (c : Constraints) : (script python : String) → Prop
  | minLength {n : UInt64} (h : c.minLength = some n) :
    Corresponds type c (".min(" ++ toString n.toNat ++ ")") ("min_length=" ++ toString n.toNat)
  | maxLength {n : UInt64} (h : c.maxLength = some n) :
    Corresponds type c (".max(" ++ toString n.toNat ++ ")") ("max_length=" ++ toString n.toNat)
  | pattern {x : String} (h : c.pattern = some x) :
    Corresponds type c (".regex(/" ++ Text.regexBody x ++ "/)") ("regex=" ++ Text.quote x)
  | atLeast {x : Binary64} (h : c.minimum = some x) :
    Corresponds type c (".gte(" ++ x.text ++ ")") ("ge=" ++ x.text)
  | atMost {x : Binary64} (h : c.maximum = some x) :
    Corresponds type c (".lte(" ++ x.text ++ ")") ("le=" ++ x.text)
  | default {v : DefaultValue} {script python : String} (h : c.default = some v)
    (htype : type ≠ .date) (hscript : script = v.literal type boolText)
    (hpython : python = v.literal type Python.boolLiteral) (hsame : SameLiteral script python) :
    Corresponds type c (".default(" ++ script ++ ")") ("default=" ++ python)
  | date {v : DefaultValue} (h : c.default = some v) (htype : type = .date) :
    Corresponds type c (".default(new Date(" ++ Text.quote v.raw ++ "))")
      ("default=" ++ Text.quote v.raw)

/-- An optional call with a name that is not TypeScript's own stands in both languages. -/
theorem forall₂_call {R : String → String → Prop} {before after : String}
    (hbracket : '(' ∈ before.toList.drop 1)
    (hname : ["email", "url", "int", "optional"].contains (TypeScript.callOf before) = false) {α : Type}
    {o : Option α} {f g : α → String} (h : ∀ a, o = some a → R (before ++ f a ++ after) (g a)) :
    List.Forall₂ R ((o.map fun a => before ++ f a ++ after).toList.filter fun piece =>
      !TypeScript.ownCalls.contains piece) (o.map g).toList := by
  cases o with
  | none => exact .nil
  | some a =>
    have hown : TypeScript.ownCalls.contains (before ++ f a ++ after) = false := by
      refine TypeScript.contains_ownCalls_eq_false ?_
      rwa [String.append_assoc, TypeScript.callOf_append hbracket]
    rw [Option.map_some, Option.toList_some, List.filter_cons_of_pos (by rw [hown]; rfl)]
    exact .cons (h a rfl) .nil

/-- A default corresponds to a default, and the leave to omit a value is TypeScript's own. -/
theorem forall₂_omission (type : ParamType) (c : Constraints) :
    List.Forall₂ (Corresponds type c)
      ((TypeScript.omissionCall? type c).toList.filter fun piece =>
        !TypeScript.ownCalls.contains piece) (Python.defaultArguments type c) := by
  unfold TypeScript.omissionCall? Python.defaultArguments
  cases hv : c.default with
  | some v =>
    have hdefault : Corresponds type c (TypeScript.defaultCall type v)
        ("default=" ++ v.literal type Python.boolLiteral) := by
      unfold TypeScript.defaultCall
      dsimp only
      split
      · next hdate =>
        subst hdate
        exact .date hv rfl
      · next hdate => exact .default hv hdate rfl rfl (sameLiteral_literal type v)
    have hown : TypeScript.ownCalls.contains (TypeScript.defaultCall type v) = false := by
      refine TypeScript.contains_ownCalls_eq_false ?_
      rw [TypeScript.callOf_defaultCall]
      decide
    simp only [Option.toList_some, List.filter_cons, hown, Bool.not_false, if_true, List.filter_nil]
    exact .cons hdefault .nil
  | none =>
    dsimp only
    split
    · exact .nil
    · exact .nil

theorem forall₂_calls_arguments (type : ParamType) (c : Constraints) :
    List.Forall₂ (Corresponds type c)
      ((TypeScript.calls type c).filter fun piece => !TypeScript.ownCalls.contains piece)
      (Python.arguments type c) := by
  have htext : List.Forall₂ (Corresponds type c)
      ((if type.isStringLike then TypeScript.textCalls c else []).filter fun piece =>
        !TypeScript.ownCalls.contains piece)
      (if type.isStringLike then Python.textArguments c else []) := by
    split
    · simp only [TypeScript.textCalls, List.filter_append]
      exact List.rel_append (List.rel_append
        (forall₂_call (by decide) (by decide) fun _ => .minLength)
        (forall₂_call (by decide) (by decide) fun _ => .maxLength))
        (forall₂_call (by decide) (by decide) fun _ => .pattern)
    · exact .nil
  have hformat : ((TypeScript.formatCall? type).toList.filter fun piece =>
      !TypeScript.ownCalls.contains piece) = [] := by
    cases type <;> decide
  have hbounds : List.Forall₂ (Corresponds type c)
      ((if type.isNumeric then TypeScript.boundCalls c else []).filter fun piece =>
        !TypeScript.ownCalls.contains piece)
      (if type.isNumeric then Python.boundArguments c else []) := by
    split
    · simp only [TypeScript.boundCalls, List.filter_append]
      exact List.rel_append (forall₂_call (by decide) (by decide) fun _ => .atLeast)
        (forall₂_call (by decide) (by decide) fun _ => .atMost)
    · exact .nil
  -- Group by group, as both languages have the groups in one order, the format being TypeScript's own.
  rw [TypeScript.calls, Python.arguments, List.filter_append, List.filter_append, List.filter_append,
    hformat, List.append_nil]
  exact List.rel_append (List.rel_append htext hbounds) (forall₂_omission type c)

/-- The constraints of a parameter in the two languages. But for the format of the type and the leave to
omit the value, each call of TypeScript corresponds to a field argument of Python, in one order; a type
is overridden in both languages or in neither; and in each language the pieces stand in the order of
their kinds, at most one of each kind, so a default and a leave to omit never stand together. -/
theorem fragments_agree (p : Parameter) :
    List.Forall₂ (Corresponds p.type (p.constraints.getD {}))
        ((TypeScript.fragment p).parts.filter fun piece => !TypeScript.ownCalls.contains piece)
        (Python.fragment p).parts ∧
      (TypeScript.fragment p).typeOverride.isSome = (Python.fragment p).typeOverride.isSome ∧
      InOrder TypeScript.callKinds ((TypeScript.fragment p).parts.map TypeScript.callOf) ∧
      InOrder Python.keywordKinds ((Python.fragment p).parts.map Python.keywordOf) := by
  refine ⟨?_, ?_, TypeScript.inOrder_parts p, Python.inOrder_parts p⟩
  · unfold TypeScript.fragment Python.fragment
    cases p.constraints with
    | none =>
      have hempty := forall₂_calls_arguments p.type {}
      rw [TypeScript.calls_empty, Python.arguments_empty] at hempty
      exact hempty
    | some c => exact forall₂_calls_arguments p.type c
  · simp only [TypeScript.fragment, Python.fragment, Option.isSome_map]

end Scaffold
