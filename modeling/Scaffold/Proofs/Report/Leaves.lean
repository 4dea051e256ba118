import Scaffold.Proofs.Text.Alphabet
import Scaffold.Report.Flat

namespace Scaffold.Report

/-- A step into a value: to the member under a key or to the item at an index. -/
inductive PathStep where
  | member (key : String)
  | item (index : Nat)
deriving DecidableEq, Repr

/-- A step as it is written behind another one. -/
def PathStep.text : PathStep → String
  | member key => "." ++ key
  | item index => "[" ++ toString index ++ "]"

/-- Steps as they are written behind another one. -/
def stepsText (steps : List PathStep) : String := String.join (steps.map PathStep.text)

/-- A path: the steps from the value as a whole, with no dot before the first key. -/
def pathText : List PathStep → String
  | .member key :: steps => key ++ stepsText steps
  | steps => stepsText steps

/-- A value that has none inside it, with the path that leads to it. -/
structure Leaf where
  path : List PathStep
  value : Json

namespace Leaf

/-- The leaf as it is seen from one step further out. -/
def below (step : PathStep) (l : Leaf) : Leaf := { l with path := step :: l.path }

/-- The value as a line shows it: a string as it is, all else in JSON. -/
def text (l : Leaf) : String :=
  match l.value with
  | .string s => s
  | value => value.compact

/-- The line of a leaf. -/
def line (l : Leaf) : String := pathText l.path ++ ": " ++ l.text

/-- The line of a leaf of a value to which steps lead. -/
def lineBehind (steps : List PathStep) (l : Leaf) : String := pathText (steps ++ l.path) ++ ": " ++ l.text

end Leaf

mutual

/-- The leaves of a value in the order of the document. -/
def leaves : Json → List Leaf
  | .object (member :: members) => memberLeaves (member :: members)
  | .array (item :: items) => itemLeaves 0 (item :: items)
  | value => [⟨[], value⟩]

/-- The leaves of the members of an object. -/
def memberLeaves : List (String × Json) → List Leaf
  | [] => []
  | (key, value) :: rest => (leaves value).map (Leaf.below (.member key)) ++ memberLeaves rest

/-- The leaves of the items of a list, the first of which has the given index. -/
def itemLeaves (index : Nat) : List Json → List Leaf
  | [] => []
  | item :: rest => (leaves item).map (Leaf.below (.item index)) ++ itemLeaves (index + 1) rest

end

mutual

/-- Every value has a leaf. -/
theorem leaves_ne_nil : ∀ value : Json, leaves value ≠ []
  | .object (member :: members) => memberLeaves_ne_nil (List.cons_ne_nil member members)
  | .array (item :: items) => itemLeaves_ne_nil 0 (List.cons_ne_nil item items)
  | .object [] | .array [] | .null | .bool _ | .number _ | .string _ => List.cons_ne_nil _ []

theorem memberLeaves_ne_nil : ∀ {members : List (String × Json)}, members ≠ [] → memberLeaves members ≠ []
  | [], h => absurd rfl h
  | (_, value) :: _, _ => fun hnil =>
    leaves_ne_nil value (List.map_eq_nil_iff.mp (List.append_eq_nil_iff.mp hnil).1)

theorem itemLeaves_ne_nil (index : Nat) : ∀ {items : List Json}, items ≠ [] → itemLeaves index items ≠ []
  | [], h => absurd rfl h
  | item :: _, _ => fun hnil =>
    leaves_ne_nil item (List.map_eq_nil_iff.mp (List.append_eq_nil_iff.mp hnil).1)

end

/-- Whether a key is there and holds neither a colon nor a line feed. -/
def isPlainKey (key : String) : Bool := key != "" && key.toList.all fun c => c != ':' && c != '\n'

/-- Whether a step has a plain key, if it has a key. -/
def PathStep.isPlain : PathStep → Bool
  | member key => isPlainKey key
  | item _ => true

mutual

/-- Whether all keys of a value are plain. -/
def hasPlainKeys : Json → Bool
  | .object members => membersHavePlainKeys members
  | .array items => itemsHavePlainKeys items
  | _ => true

/-- Whether all keys of members and of what is inside them are plain. -/
def membersHavePlainKeys : List (String × Json) → Bool
  | [] => true
  | (key, value) :: rest => isPlainKey key && hasPlainKeys value && membersHavePlainKeys rest

/-- Whether all keys of items are plain. -/
def itemsHavePlainKeys : List Json → Bool
  | [] => true
  | item :: rest => hasPlainKeys item && itemsHavePlainKeys rest

end

theorem membersHavePlainKeys_cons {key : String} {value : Json} {rest : List (String × Json)}
    (h : membersHavePlainKeys ((key, value) :: rest) = true) :
    isPlainKey key = true ∧ hasPlainKeys value = true ∧ membersHavePlainKeys rest = true := by
  simpa only [membersHavePlainKeys, Bool.and_eq_true, and_assoc] using h

theorem itemsHavePlainKeys_cons {item : Json} {rest : List Json}
    (h : itemsHavePlainKeys (item :: rest) = true) :
    hasPlainKeys item = true ∧ itemsHavePlainKeys rest = true := by
  simpa only [itemsHavePlainKeys, Bool.and_eq_true] using h

/-- Whether all steps are plain. -/
def PlainPath (steps : List PathStep) : Prop := ∀ step ∈ steps, step.isPlain = true

theorem PlainPath.snoc {steps : List PathStep} (h : PlainPath steps) {step : PathStep}
    (hstep : step.isPlain = true) : PlainPath (steps ++ [step]) :=
  List.forall_mem_append.mpr ⟨h, List.forall_mem_singleton.mpr hstep⟩

theorem plainPath_below (step : PathStep) (hstep : step.isPlain = true) {ls : List Leaf}
    (h : ∀ l ∈ ls, PlainPath l.path) : ∀ l ∈ ls.map (Leaf.below step), PlainPath l.path :=
  List.forall_mem_map.mpr fun l hl => List.forall_mem_cons.mpr ⟨hstep, h l hl⟩

mutual

/-- The ways to the leaves of a value with plain keys are plain. -/
theorem plainPath_of_mem_leaves : ∀ value : Json, hasPlainKeys value = true →
    ∀ l ∈ leaves value, PlainPath l.path
  | .object (member :: members), h => plainPath_of_mem_memberLeaves (member :: members) h
  | .array (item :: items), h => plainPath_of_mem_itemLeaves 0 (item :: items) h
  | .object [], _ | .array [], _ | .null, _ | .bool _, _ | .number _, _ | .string _, _ =>
    List.forall_mem_singleton.mpr fun _ hstep => absurd hstep List.not_mem_nil

theorem plainPath_of_mem_memberLeaves : ∀ members : List (String × Json),
    membersHavePlainKeys members = true → ∀ l ∈ memberLeaves members, PlainPath l.path
  | [], _ => fun _ hl => absurd hl List.not_mem_nil
  | (_, value) :: rest, h =>
    have ⟨hkey, hvalue, hrest⟩ := membersHavePlainKeys_cons h
    List.forall_mem_append.mpr ⟨plainPath_below (.member _) hkey (plainPath_of_mem_leaves value hvalue),
      plainPath_of_mem_memberLeaves rest hrest⟩

theorem plainPath_of_mem_itemLeaves (index : Nat) : ∀ items : List Json,
    itemsHavePlainKeys items = true → ∀ l ∈ itemLeaves index items, PlainPath l.path
  | [], _ => fun _ hl => absurd hl List.not_mem_nil
  | item :: rest, h =>
    have ⟨hitem, hrest⟩ := itemsHavePlainKeys_cons h
    List.forall_mem_append.mpr ⟨plainPath_below (.item index) rfl (plainPath_of_mem_leaves item hitem),
      plainPath_of_mem_itemLeaves (index + 1) rest hrest⟩

end

theorem stepsText_append (steps more : List PathStep) :
    stepsText (steps ++ more) = stepsText steps ++ stepsText more := by
  rw [stepsText, List.map_append, String.join_append]
  rfl

theorem stepsText_singleton (step : PathStep) : stepsText [step] = step.text := by
  rw [stepsText, List.map_singleton, String.join_cons, String.join_nil, String.append_empty]

theorem pathText_append {steps : List PathStep} (h : steps ≠ []) (more : List PathStep) :
    pathText (steps ++ more) = pathText steps ++ stepsText more := by
  match steps with
  | .member key :: rest => rw [List.cons_append, pathText, pathText, stepsText_append, String.append_assoc]
  | .item index :: rest => exact stepsText_append (.item index :: rest) more

theorem pathText_member (key : String) : pathText [.member key] = key := by
  rw [pathText, stepsText, List.map_nil, String.join_nil, String.append_empty]

/-- A plain path that leads anywhere is not empty as a text. -/
theorem pathText_ne {steps : List PathStep} (h : PlainPath steps) (hne : steps ≠ []) : pathText steps ≠ "" := by
  match steps with
  | .member key :: rest =>
    have hkey : isPlainKey key = true := h _ List.mem_cons_self
    intro hnil
    rw [pathText, String.append_eq_empty_iff] at hnil
    rw [hnil.1] at hkey
    exact absurd hkey (by decide)
  | .item index :: rest =>
    intro hnil
    have hbracket : (PathStep.item index).text = "" :=
      (String.append_eq_empty_iff.mp ((String.join_cons ..).symm.trans hnil)).1
    rw [PathStep.text, String.append_eq_empty_iff, String.append_eq_empty_iff] at hbracket
    exact absurd hbracket.2 (by decide)

theorem memberPath_pathText {steps : List PathStep} (h : PlainPath steps) (key : String) :
    memberPath (pathText steps) key = pathText (steps ++ [.member key]) := by
  by_cases hnil : steps = []
  · rw [hnil, List.nil_append, pathText_member]
    rfl
  · have hempty : (pathText steps).isEmpty = false := by
      simpa only [String.isEmpty_eq_false_iff] using pathText_ne h hnil
    rw [memberPath, hempty, if_neg Bool.false_ne_true, pathText_append hnil, stepsText_singleton, PathStep.text,
      String.append_assoc]

theorem itemPath_pathText (steps : List PathStep) (index : Nat) :
    itemPath (pathText steps) index = pathText (steps ++ [.item index]) := by
  have hitem : itemPath (pathText steps) index = pathText steps ++ stepsText [.item index] := by
    simp only [itemPath, stepsText_singleton, PathStep.text, String.append_assoc]
  rw [hitem]
  by_cases hnil : steps = []
  · rw [hnil, List.nil_append]
    exact String.empty_append
  · rw [pathText_append hnil]

theorem mem_stepsText {steps : List PathStep} {c : Char} (hc : c ∈ (stepsText steps).toList) :
    ∃ step ∈ steps, c ∈ step.text.toList := by
  rw [stepsText, String.toList_join, List.flatMap_map] at hc
  exact List.mem_flatMap.mp hc

theorem mem_pathText {steps : List PathStep} {c : Char} (hc : c ∈ (pathText steps).toList) :
    ∃ step ∈ steps, c ∈ step.text.toList := by
  match steps with
  | .member key :: rest =>
    rw [pathText, String.toList_append, List.mem_append] at hc
    rcases hc with hc | hc
    · refine ⟨.member key, List.mem_cons_self, ?_⟩
      rw [PathStep.text, String.toList_append]
      exact List.mem_append_right _ hc
    · obtain ⟨step, hstep, hc⟩ := mem_stepsText hc
      exact ⟨step, List.mem_cons_of_mem _ hstep, hc⟩
  | .item index :: rest => exact mem_stepsText hc

/-- A plain step is written without colons and line feeds. -/
theorem ne_of_mem_text {step : PathStep} (h : step.isPlain = true) {c : Char} (hc : c ∈ step.text.toList) :
    c ≠ ':' ∧ c ≠ '\n' := by
  cases step with
  | member key =>
    have hdot : ∀ c ∈ ".".toList, c ≠ ':' ∧ c ≠ '\n' := List.forall_iff_forall_mem.mp (by decide)
    have hkey : (key.toList.all fun c => c != ':' && c != '\n') = true := (Bool.and_eq_true_iff.mp h).2
    rw [PathStep.text, String.toList_append, List.mem_append] at hc
    rcases hc with hc | hc
    · exact hdot c hc
    · simpa only [Bool.and_eq_true, bne_iff_ne] using List.all_eq_true.mp hkey c hc
  | item index =>
    have hopen : ∀ c ∈ "[".toList, c ≠ ':' ∧ c ≠ '\n' := List.forall_iff_forall_mem.mp (by decide)
    have hclose : ∀ c ∈ "]".toList, c ≠ ':' ∧ c ≠ '\n' := List.forall_iff_forall_mem.mp (by decide)
    rw [PathStep.text, String.toList_append, String.toList_append, List.mem_append, List.mem_append] at hc
    rcases hc with (hc | hc) | hc
    · exact hopen c hc
    · have hdigit := numberText_toString index c hc
      refine ⟨?_, ?_⟩ <;> rintro rfl <;> exact absurd hdigit (by decide)
    · exact hclose c hc

/-- A plain path is written without colons and line feeds. -/
theorem ne_of_mem_pathText {steps : List PathStep} (h : PlainPath steps) {c : Char}
    (hc : c ∈ (pathText steps).toList) : c ≠ ':' ∧ c ≠ '\n' := by
  obtain ⟨step, hstep, hc⟩ := mem_pathText hc
  exact ne_of_mem_text (h step hstep) hc

theorem leafLine_pathText (steps : List PathStep) (value : Json) :
    leafLine (pathText steps) value = Leaf.lineBehind steps ⟨[], value⟩ := by
  rw [Leaf.lineBehind, List.append_nil, Leaf.text]
  cases value <;> rfl

theorem map_lineBehind_below (steps : List PathStep) (step : PathStep) (ls : List Leaf) :
    (ls.map (Leaf.below step)).map (Leaf.lineBehind steps) = ls.map (Leaf.lineBehind (steps ++ [step])) := by
  rw [List.map_map]
  exact List.map_congr_left fun l _ => by
    simp only [Function.comp_apply, Leaf.lineBehind, Leaf.below, Leaf.text, List.append_assoc,
      List.singleton_append]

mutual

/-- The lines of a value to which plain steps lead are those of its leaves. -/
theorem flatLines_pathText {steps : List PathStep} (h : PlainPath steps) : ∀ value : Json,
    hasPlainKeys value = true → flatLines (pathText steps) value = (leaves value).map (Leaf.lineBehind steps)
  | .object (member :: members), hkeys => memberLines_pathText h (member :: members) hkeys
  | .array (item :: items), hkeys => itemLines_pathText h 0 (item :: items) hkeys
  | .object [], _ | .array [], _ | .null, _ | .bool _, _ | .number _, _ | .string _, _ =>
    congrArg (fun line => [line]) (leafLine_pathText steps _)

theorem memberLines_pathText {steps : List PathStep} (h : PlainPath steps) :
    ∀ members : List (String × Json), membersHavePlainKeys members = true →
      memberLines (pathText steps) members = (memberLeaves members).map (Leaf.lineBehind steps)
  | [], _ => rfl
  | (key, value) :: rest, hkeys => by
    obtain ⟨hkey, hvalue, hrest⟩ := membersHavePlainKeys_cons hkeys
    have hstep : (PathStep.member key).isPlain = true := hkey
    rw [memberLines, memberLeaves, List.map_append, map_lineBehind_below, memberPath_pathText h,
      flatLines_pathText (h.snoc hstep) value hvalue, memberLines_pathText h rest hrest]

theorem itemLines_pathText {steps : List PathStep} (h : PlainPath steps) (index : Nat) :
    ∀ items : List Json, itemsHavePlainKeys items = true →
      itemLines (pathText steps) index items = (itemLeaves index items).map (Leaf.lineBehind steps)
  | [], _ => rfl
  | item :: rest, hkeys => by
    obtain ⟨hitem, hrest⟩ := itemsHavePlainKeys_cons hkeys
    have hstep : (PathStep.item index).isPlain = true := rfl
    rw [itemLines, itemLeaves, List.map_append, map_lineBehind_below, itemPath_pathText,
      flatLines_pathText (h.snoc hstep) item hitem, itemLines_pathText h (index + 1) rest hrest]

end

/-- The text of a value with plain keys is the lines of its leaves. -/
theorem flat_eq {value : Json} (h : hasPlainKeys value = true) :
    flat value = "\n".intercalate ((leaves value).map Leaf.line) :=
  congrArg "\n".intercalate (flatLines_pathText (fun _ hstep => absurd hstep List.not_mem_nil) value h)

end Scaffold.Report
