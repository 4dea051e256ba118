import Scaffold.Proofs.Template.Schema

namespace Scaffold.Template

mutual

/-- Whether two parts are the same. -/
def Part.same : Part → Part → Bool
  | .text s, .text t => s == t
  | .value path, .value path' => path == path'
  | .choice condition yes no, .choice condition' yes' no' =>
    condition == condition' && sameParts yes yes' && sameParts no no'
  | .each list body none, .each list' body' none => list == list' && sameParts body body'
  | .each list body (some other), .each list' body' (some other') =>
    list == list' && sameParts body body' && sameParts other other'
  | .unknown, .unknown => true
  | _, _ => false

/-- Whether two lists of parts are the same. -/
def sameParts : List Part → List Part → Bool
  | [], [] => true
  | part :: rest, part' :: rest' => part.same part' && sameParts rest rest'
  | _, _ => false

end

mutual

theorem Part.same_iff (part other : Part) : part.same other = true ↔ part = other := by
  match part with
  | .text _ => cases other <;> simp [Part.same]
  | .value _ => cases other <;> simp [Part.same]
  | .choice _ yes no =>
    have hyes := sameParts_iff yes
    have hno := sameParts_iff no
    cases other <;> simp [Part.same, hyes, hno, and_assoc]
  | .each _ body none =>
    have hbody := sameParts_iff body
    match other with
    | .each _ _ none => simp [Part.same, hbody]
    | .each _ _ (some _) | .text _ | .value _ | .choice .. | .unknown => simp [Part.same]
  | .each _ body (some alternative) =>
    have hbody := sameParts_iff body
    have halternative := sameParts_iff alternative
    match other with
    | .each _ _ (some _) => simp [Part.same, hbody, halternative, and_assoc]
    | .each _ _ none | .text _ | .value _ | .choice .. | .unknown => simp [Part.same]
  | .unknown => cases other <;> simp [Part.same]

theorem sameParts_iff (parts others : List Part) : sameParts parts others = true ↔ parts = others := by
  match parts with
  | [] => cases others <;> simp [sameParts]
  | part :: rest =>
    have hpart := part.same_iff
    have hrest := sameParts_iff rest
    cases others <;> simp [sameParts, hpart, hrest]

end

instance : DecidableEq Part := fun part other => decidable_of_iff _ (part.same_iff other)

/-- The parts have a text in a scope. -/
def Renders (parts : List Part) (scope : Scope) (text : String) : Prop := renderParts parts scope = some text

/-- The texts of all items are joined in their order. -/
theorem concat?_map_some {α : Type} (textOf : α → String) (items : List α) :
    concat? (items.map fun item => some (textOf item)) = some (String.join (items.map textOf)) := by
  induction items with
  | nil => rfl
  | cons item items ih =>
    rw [List.map_cons, List.map_cons, concat?, ih, Option.map_some, String.join_cons]

/-- A block that is repeated for each item of a list. -/
theorem repeated_map {α : Type} {body : Scope → Option String} {encode : α → Json} {textOf : α → String}
    {items : List α} (h : ∀ item ∈ items, ∀ locals, body ⟨encode item, locals⟩ = some (textOf item)) :
    repeated body none (.found (.array (items.map encode))) = some (String.join (items.map textOf)) := by
  -- The scope of an item has its place in the list for locals, and the body has the same text for all locals.
  have hbody : ((items.map encode).mapIdx (itemScope (items.map encode).length)).map body =
      items.map fun item => some (textOf item) := by
    apply List.ext_getElem
    · simp
    · intro i _ hi
      have hitem : i < items.length := by simpa using hi
      simpa [itemScope] using h items[i] (List.getElem_mem hitem) _
  cases items with
  | nil => rfl
  | cons item rest =>
    have hne : (item :: rest).map encode ≠ [] := List.cons_ne_nil _ _
    rw [repeated_array hne, hbody, concat?_map_some]

namespace Renders

variable {path : Path} {rest yes no body : List Part} {scope : Scope} {s t : String}

theorem nil : Renders [] scope "" := rfl

theorem text (h : Renders rest scope t) : Renders (.text s :: rest) scope (s ++ t) := by
  rw [Renders, renderParts, h]
  rfl

theorem append {parts : List Part} (h : Renders parts scope s) (hrest : Renders rest scope t) :
    Renders (parts ++ rest) scope (s ++ t) := by
  induction parts generalizing s with
  | nil =>
    obtain rfl : "" = s := Option.some_inj.mp h
    simpa using hrest
  | cons part parts ih =>
    simp only [Renders, renderParts, bind, pure, Option.bind_eq_some_iff, Option.some.injEq] at h
    obtain ⟨shown, hpart, behind, hparts, rfl⟩ := h
    rw [Renders, List.cons_append, renderParts, hpart, ih hparts, String.append_assoc]
    rfl

/-- A string is put in as it is. -/
theorem value (hfind : scope.find path = .found (.string s)) (h : Renders rest scope t) :
    Renders (.value path :: rest) scope (s ++ t) := by
  rw [Renders, renderParts, renderPart, hfind, h]
  rfl

theorem choice {b : Bool} (hfind : scope.find path = .found (.bool b))
    (hblock : Renders (if b then yes else no) scope s) (h : Renders rest scope t) :
    Renders (.choice path yes no :: rest) scope (s ++ t) := by
  have hpart : renderPart (.choice path yes no) scope = some s := by
    rw [renderPart, hfind]
    cases b <;> exact hblock
  rw [Renders, renderParts, hpart, h]
  rfl

theorem each {α : Type} {encode : α → Json} {textOf : α → String} {items : List α}
    (hfind : scope.find path = .found (.array (items.map encode)))
    (hbody : ∀ item ∈ items, ∀ locals, Renders body ⟨encode item, locals⟩ (textOf item))
    (h : Renders rest scope t) :
    Renders (.each path body none :: rest) scope (String.join (items.map textOf) ++ t) := by
  rw [Renders, renderParts, renderPart, hfind, repeated_map hbody, h]
  rfl

end Renders

end Scaffold.Template
