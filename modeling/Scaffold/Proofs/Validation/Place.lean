import Mathlib.Data.List.TakeWhile
import Scaffold.Proofs.Number.Numeral
import Scaffold.Validation.Check

namespace Scaffold

/-- A constraint that a problem can be about. -/
inductive ConstraintKey where
  | minLength
  | minimum
  | maximum
  | pattern
  | enum
  | default
deriving DecidableEq, Repr

def ConstraintKey.path : ConstraintKey → String
  | minLength => ".minLength"
  | minimum => ".minimum"
  | maximum => ".maximum"
  | pattern => ".pattern"
  | enum => ".enum"
  | default => ".default"

/-- A part of a parameter that a problem can be about. -/
inductive ParameterPart where
  | name
  | description
  | type
  | constraint (key : ConstraintKey)
deriving DecidableEq, Repr

def ParameterPart.path : ParameterPart → String
  | name => ".name"
  | description => ".description"
  | type => ".type"
  | constraint key => ".constraints" ++ key.path

/-- A part of a tool that a problem can be about, apart from its single parameters. -/
inductive ToolPart where
  | name
  | description
  | parameters
deriving DecidableEq, Repr

def ToolPart.path : ToolPart → String
  | name => ".name"
  | description => ".description"
  | parameters => ".parameters"

/-- The path of a parameter. -/
def parameterPath (tool index : Nat) : String :=
  toolPath tool ++ ".parameters[" ++ toString index ++ "]"

/-- The path of the constraints of a parameter. -/
def constraintsPath (tool index : Nat) : String := parameterPath tool index ++ ".constraints"

/-- A place of a server description. -/
inductive FieldPlace where
  | serverName
  | description
  | tools
  | tool (index : Nat) (part : ToolPart)
  | parameter (tool index : Nat) (part : ParameterPart)
deriving DecidableEq, Repr

namespace FieldPlace

/-- The path that problems at a place are reported with. -/
def path : FieldPlace → String
  | serverName => "serverName"
  | description => "description"
  | tools => "tools"
  | tool i part => toolPath i ++ part.path
  | parameter i j part => parameterPath i j ++ part.path

/-- The rank of the field of the server that a place belongs to; single tools come behind the tools as
a whole. -/
def rank : FieldPlace → Nat
  | serverName => 0
  | description => 1
  | tools => 2
  | tool .. | parameter .. => 3

/-- The index of the tool that a place belongs to. -/
def toolIndex? : FieldPlace → Option Nat
  | tool i _ | parameter i _ _ => some i
  | _ => none

/-- The index of the parameter that a place belongs to. -/
def parameterIndex? : FieldPlace → Option Nat
  | parameter _ j _ => some j
  | _ => none

/-- A place that may stand before another one in the order of the document. -/
structure NotAfter (p q : FieldPlace) : Prop where
  rank_le : p.rank ≤ q.rank
  toolIndex_le : ∀ i ∈ p.toolIndex?, ∀ j ∈ q.toolIndex?, i ≤ j
  parameterIndex_le : p.toolIndex? = q.toolIndex? →
    ∀ i ∈ p.parameterIndex?, ∀ j ∈ q.parameterIndex?, i ≤ j

instance : DecidableRel NotAfter := fun p q =>
  decidable_of_iff (p.rank ≤ q.rank ∧ (∀ i ∈ p.toolIndex?, ∀ j ∈ q.toolIndex?, i ≤ j) ∧
      (p.toolIndex? = q.toolIndex? → ∀ i ∈ p.parameterIndex?, ∀ j ∈ q.parameterIndex?, i ≤ j))
    ⟨fun h => ⟨h.1, h.2.1, h.2.2⟩,
      fun h => ⟨h.rank_le, h.toolIndex_le, h.parameterIndex_le⟩⟩

/-- A place that a server description has. -/
def IsIn (s : Server) : FieldPlace → Prop
  | serverName | description | tools => True
  | tool i _ => i < s.tools.length
  | parameter i j _ => ∃ t, s.tools[i]? = some t ∧ j < t.parameters.length

end FieldPlace

/-- An index ends at its bracket. -/
theorem toDigits_bracket_inj {i j : Nat} {a b : List Char}
    (h : Nat.toDigits 10 i ++ ']' :: a = Nat.toDigits 10 j ++ ']' :: b) : i = j ∧ a = b := by
  have htake (k : Nat) (c : List Char) :
      (Nat.toDigits 10 k ++ ']' :: c).takeWhile Char.isDigit = Nat.toDigits 10 k := by
    rw [List.takeWhile_append_of_pos (isDigit_toDigits k), List.takeWhile_cons_of_neg (by decide),
      List.append_nil]
  have hdigits : Nat.toDigits 10 i = Nat.toDigits 10 j := by rw [← htake i a, h, htake]
  have hindex : i = j := by rw [← digitsValue_toDigits i, hdigits, digitsValue_toDigits]
  subst hindex
  exact ⟨rfl, List.cons_inj_right _ |>.mp (List.append_cancel_left h)⟩

theorem toList_toolPath (i : Nat) :
    (toolPath i).toList = "tools[".toList ++ (Nat.toDigits 10 i ++ [']']) := by
  simp [toolPath]

theorem toList_parameterPath (i j : Nat) :
    (parameterPath i j).toList =
      (toolPath i).toList ++ (".parameters[".toList ++ (Nat.toDigits 10 j ++ [']'])) := by
  simp [parameterPath]

/-- What stands below one tool stands below no other. -/
theorem toolPath_append_inj {i j : Nat} {a b : List Char}
    (h : (toolPath i).toList ++ a = (toolPath j).toList ++ b) : i = j ∧ a = b := by
  simp only [toList_toolPath, List.append_assoc, List.append_cancel_left_eq, List.singleton_append] at h
  exact toDigits_bracket_inj h

/-- What stands below one parameter stands below no other. -/
theorem parameterPath_append_inj {i j k l : Nat} {a b : List Char}
    (h : (parameterPath i j).toList ++ a = (parameterPath k l).toList ++ b) :
    i = k ∧ j = l ∧ a = b := by
  simp only [toList_parameterPath, List.append_assoc] at h
  obtain ⟨rfl, h⟩ := toolPath_append_inj h
  simp only [List.append_cancel_left_eq, List.singleton_append] at h
  exact ⟨rfl, toDigits_bracket_inj h⟩

/-- No part of a tool is a part of one of its parameters. -/
theorem toolPath_append_ne (i j k : Nat) (part : ToolPart) (a : List Char) :
    (toolPath i ++ part.path).toList ≠ (parameterPath j k).toList ++ a := by
  intro h
  rw [String.toList_append, toList_parameterPath, List.append_assoc] at h
  obtain ⟨-, h⟩ := toolPath_append_inj h
  cases part <;> simp [ToolPart.path] at h

theorem ToolPart.path_injective : Function.Injective ToolPart.path := by
  intro a b h
  revert h
  cases a <;> cases b <;> decide

theorem ParameterPart.path_injective : Function.Injective ParameterPart.path := by
  intro a b h
  revert h
  rcases a with _ | _ | _ | (_ | _ | _ | _ | _ | _) <;>
    rcases b with _ | _ | _ | (_ | _ | _ | _ | _ | _) <;> decide

/-- The paths of single tools are those with a bracket behind their first word. -/
theorem FieldPlace.getElem?_path (p : FieldPlace) : p.path.toList[5]? = some '[' ↔ p.rank = 3 := by
  cases p with
  | serverName | description | tools => decide
  | tool i part => simp [path, rank, toList_toolPath]
  | parameter i j part => simp [path, rank, toList_parameterPath, toList_toolPath]

/-- A path is the text of one place only. -/
theorem FieldPlace.path_injective : Function.Injective FieldPlace.path := by
  intro p q h
  -- Whether an index stands behind the word tells the places of tools from all others.
  have hrank : p.rank = 3 ↔ q.rank = 3 := by rw [← getElem?_path, h, getElem?_path]
  cases p with
  | serverName | description | tools =>
    cases q with
    | serverName | description | tools => first | rfl | exact absurd h (by decide)
    | tool | parameter => exact absurd (hrank.mpr rfl) (by decide)
  | tool i a =>
    cases q with
    | serverName | description | tools => exact absurd (hrank.mp rfl) (by decide)
    | tool j b =>
      have hlist := congrArg String.toList h
      simp only [path, String.toList_append] at hlist
      obtain ⟨rfl, hpart⟩ := toolPath_append_inj hlist
      rw [ToolPart.path_injective (String.toList_inj.mp hpart)]
    | parameter j k b =>
      have hlist := congrArg String.toList h
      exact (toolPath_append_ne i j k a _ (hlist.trans String.toList_append)).elim
  | parameter i k a =>
    cases q with
    | serverName | description | tools => exact absurd (hrank.mp rfl) (by decide)
    | tool j b =>
      have hlist := congrArg String.toList h.symm
      exact (toolPath_append_ne j i k b _ (hlist.trans String.toList_append)).elim
    | parameter j l b =>
      have hlist := congrArg String.toList h
      simp only [path, String.toList_append] at hlist
      obtain ⟨rfl, rfl, hpart⟩ := parameterPath_append_inj hlist
      rw [ParameterPart.path_injective (String.toList_inj.mp hpart)]

/-- Below the constraints of a parameter stand their keys and nothing else. -/
theorem FieldPlace.startsWith_constraintsPath_iff (p : FieldPlace) (i j : Nat) :
    p.path.startsWith (constraintsPath i j) = true ↔ ∃ key, p = .parameter i j (.constraint key) := by
  rw [String.startsWith_string_iff, constraintsPath, String.toList_append]
  constructor
  · rintro ⟨tail, h⟩
    rw [List.append_assoc] at h
    have hrank : p.rank = 3 := by
      rw [← getElem?_path, ← h]
      simp [toList_parameterPath, toList_toolPath]
    cases p with
    | serverName | description | tools => cases hrank
    | tool k part => exact (toolPath_append_ne k i j part _ h.symm).elim
    | parameter k l part =>
      rw [path, String.toList_append] at h
      obtain ⟨rfl, rfl, hpart⟩ := parameterPath_append_inj h
      cases part with
      | constraint key => exact ⟨key, rfl⟩
      | name | description | type => simp [ParameterPart.path] at hpart
  · rintro ⟨key, rfl⟩
    simp [path, ParameterPart.path]

end Scaffold
