import Scaffold.Template.Render
import Mathlib.Data.List.Forall2

/-!
What a template asks of the values that it is rendered for. A schema lists the members that a value must
have, down to the values that are shown, and a template is checked against it without any value. The
meaning of a schema is a relation between two values, so one theorem tells two things of a template that
passes the check: strict rendering of it meets nothing that is missing, and its text depends on nothing that
the schema does not list.
-/

namespace Scaffold.Template

/-- What is asked of a value. -/
inductive Schema where
  /-- Nothing; the value may be shown. -/
  | leaf
  /-- An object with these members at least. -/
  | record (members : List (String × Schema))
  /-- A list of such items. -/
  | list (item : Schema)

mutual

/-- Both values meet the schema, and they agree in what it lists. -/
def Schema.Relates : Schema → Json → Json → Prop
  | .leaf, v, w => v = w
  | .record members, .object xs, .object ys => RelatesMembers members xs ys
  | .list item, .array xs, .array ys => List.Forall₂ item.Relates xs ys
  | _, _, _ => False

/-- The same for the members of an object. -/
def RelatesMembers : List (String × Schema) → List (String × Json) → List (String × Json) → Prop
  | [], _, _ => True
  | (name, schema) :: rest, xs, ys =>
    (∃ v w, xs.lookup name = some v ∧ ys.lookup name = some w ∧ schema.Relates v w) ∧
      RelatesMembers rest xs ys

end

namespace Schema

/-- What is asked of the value that a path leads to. -/
def follow : List String → Schema → Option Schema
  | [], schema => some schema
  | name :: rest, .record members => (members.lookup name).bind (follow rest)
  | _ :: _, _ => none

/-- Variables of a repeated block are not listed by any schema. -/
def find (schema : Schema) (path : Path) : Option Schema :=
  if path.isLocal then none else schema.follow path.names

/-- Whether a path leads to a value that may be shown. -/
def shows (schema : Schema) (path : Path) : Bool :=
  match schema.find path with
  | some .leaf => true
  | _ => false

/-- What is asked of the items of the list that a path leads to. -/
def items? (schema : Schema) (path : Path) : Option Schema :=
  match schema.find path with
  | some (.list item) => some item
  | _ => none

end Schema

mutual

/-- Whether a part asks for nothing but what the schema lists. -/
def Part.within (schema : Schema) : Part → Bool
  | .text _ => true
  | .value path => schema.shows path
  | .choice condition yes no => schema.shows condition && partsWithin schema yes && partsWithin schema no
  | .each list body none => (schema.items? list).any fun item => partsWithin item body
  | .each list body (some other) =>
    ((schema.items? list).any fun item => partsWithin item body) && partsWithin schema other
  | .unknown => false

/-- Whether parts ask for nothing but what the schema lists. -/
def partsWithin (schema : Schema) : List Part → Bool
  | [] => true
  | part :: rest => part.within schema && partsWithin schema rest

end

variable {schema : Schema} {a b : Scope}

theorem RelatesMembers.lookup {members : List (String × Schema)} {xs ys : List (String × Json)}
    (h : RelatesMembers members xs ys) {name : String} (hm : members.lookup name = some schema) :
    ∃ v w, xs.lookup name = some v ∧ ys.lookup name = some w ∧ schema.Relates v w := by
  induction members with
  | nil => cases hm
  | cons member rest ih =>
    obtain ⟨other, s⟩ := member
    rw [RelatesMembers] at h
    rw [List.lookup_cons] at hm
    split at hm
    · next heq =>
      cases hm
      rw [eq_of_beq heq]
      exact h.1
    · exact ih h.2 hm

/-- A path leads to related values if the schema says what is asked there. -/
theorem Schema.Relates.follow {names : List String} {asked : Schema} {v w : Json}
    (h : schema.Relates v w) (hf : schema.follow names = some asked) :
    ∃ x y, Template.follow names v = .found x ∧ Template.follow names w = .found y ∧
      asked.Relates x y := by
  induction names generalizing schema v w with
  | nil =>
    cases hf
    exact ⟨v, w, rfl, rfl, h⟩
  | cons name rest ih =>
    cases schema with
    | leaf => cases hf
    | list item => cases hf
    | record members =>
      obtain ⟨inner, hm, hf⟩ := Option.bind_eq_some_iff.mp hf
      cases v <;> cases w <;> rw [Relates] at h <;> try contradiction
      obtain ⟨x, y, hx, hy, hxy⟩ := h.lookup hm
      simp only [Template.follow, hx, hy]
      exact ih hxy hf

theorem Schema.Relates.find {path : Path} {asked : Schema} (h : schema.Relates a.value b.value)
    (hf : schema.find path = some asked) :
    ∃ x y, a.find path = .found x ∧ b.find path = .found y ∧ asked.Relates x y := by
  unfold Schema.find at hf
  split at hf
  · cases hf
  · next hlocal =>
    simp only [Scope.find, hlocal]
    exact h.follow hf

/-- What may be shown is the same on both sides. -/
theorem Schema.Relates.of_shows {path : Path} (h : schema.Relates a.value b.value)
    (hs : schema.shows path = true) : ∃ x, a.find path = .found x ∧ b.find path = .found x := by
  unfold Schema.shows at hs
  split at hs
  · next hf =>
    obtain ⟨x, y, hx, hy, hxy⟩ := h.find hf
    rw [Relates] at hxy
    exact ⟨x, hx, hxy ▸ hy⟩
  · cases hs

theorem Schema.Relates.of_items? {path : Path} {item : Schema} (h : schema.Relates a.value b.value)
    (hs : schema.items? path = some item) :
    ∃ xs ys, a.find path = .found (.array xs) ∧ b.find path = .found (.array ys) ∧
      List.Forall₂ item.Relates xs ys := by
  unfold Schema.items? at hs
  split at hs
  · next hf =>
    cases hs
    obtain ⟨x, y, hx, hy, hxy⟩ := h.find hf
    cases x <;> cases y <;> rw [Relates] at hxy <;> try contradiction
    exact ⟨_, _, hx, hy, hxy⟩
  · cases hs

/-- The same text comes of both scopes, and it does come. -/
def Together (f : Scope → Option String) (a b : Scope) : Prop := ∃ s, f a = some s ∧ f b = some s

theorem together_concat? {f : Scope → Option String} {as bs : List Scope}
    (h : List.Forall₂ (Together f) as bs) :
    ∃ s, concat? (as.map f) = some s ∧ concat? (bs.map f) = some s := by
  induction h with
  | nil => exact ⟨"", rfl, rfl⟩
  | cons hab _ ih =>
    obtain ⟨s, ha, hb⟩ := hab
    obtain ⟨t, has, hbs⟩ := ih
    refine ⟨s ++ t, ?_, ?_⟩
    · rw [List.map_cons, ha, concat?, has, Option.map_some]
    · rw [List.map_cons, hb, concat?, hbs, Option.map_some]

/-- Related lists are repeated in scopes that are related one by one. -/
theorem forall₂_mapIdx_itemScope {item : Schema} {xs ys : List Json}
    (h : List.Forall₂ item.Relates xs ys) (n : Nat) :
    List.Forall₂ (fun a b : Scope => item.Relates a.value b.value)
      (xs.mapIdx (itemScope n)) (ys.mapIdx (itemScope n)) := by
  rw [List.forall₂_iff_get]
  refine ⟨by simp [h.length_eq], fun i hx hy => ?_⟩
  simp only [List.get_eq_getElem, List.getElem_mapIdx, itemScope]
  exact (List.forall₂_iff_get.mp h).2 i (by simpa using hx) (by simpa using hy)

/-- A block over a list with items is the texts of the items. -/
theorem repeated_array {body : Scope → Option String} {otherwise : Option (Option String)}
    {items : List Json} (h : items ≠ []) :
    repeated body otherwise (.found (.array items)) =
      concat? ((items.mapIdx (itemScope items.length)).map body) := by
  obtain ⟨item, rest, rfl⟩ := List.exists_cons_of_ne_nil h
  cases otherwise <;> simp [repeated, scopes?]

/-- A repeated block over related lists, whose body gives the same text for related items. -/
theorem together_repeated {path : Path} {item : Schema} {body : Scope → Option String}
    (otherwise : Option (Scope → Option String)) (h : schema.Relates a.value b.value)
    (hs : schema.items? path = some item)
    (hbody : ∀ c d : Scope, item.Relates c.value d.value → Together body c d)
    (hother : ∀ f ∈ otherwise, Together f a b) :
    Together (fun scope => repeated body (otherwise.map (· scope)) (scope.find path)) a b := by
  obtain ⟨xs, ys, hx, hy, hxy⟩ := h.of_items? hs
  simp only [Together, hx, hy]
  cases xs with
  | nil =>
    -- Without items the other text is shown, if the block has one.
    cases hxy
    cases otherwise with
    | none => exact ⟨"", rfl, rfl⟩
    | some f => exact hother f rfl
  | cons x xs =>
    have hys : ys ≠ [] := by
      rintro rfl
      cases hxy
    obtain ⟨s, ha, hb⟩ := together_concat?
      ((forall₂_mapIdx_itemScope hxy (x :: xs).length).imp fun c d hcd => hbody c d hcd)
    refine ⟨s, ?_, ?_⟩
    · rw [repeated_array (List.cons_ne_nil x xs), ha]
    · rw [repeated_array hys, ← hxy.length_eq, hb]

-- A repeated block changes the scope and what is asked of it, so both are open in the induction, which follows
-- how blocks are nested.
mutual

/-- A part that is within a schema gives the same text for values that the schema relates. -/
theorem Part.together (part : Part) {schema : Schema} {a b : Scope}
    (h : schema.Relates a.value b.value) (hp : part.within schema = true) :
    Together (renderPart part) a b := by
  match part with
  | .text s => exact ⟨s, rfl, rfl⟩
  | .value path =>
    obtain ⟨x, ha, hb⟩ := h.of_shows hp
    exact ⟨shown x, by rw [renderPart, ha], by rw [renderPart, hb]⟩
  | .choice condition yes no =>
    simp only [Part.within, Bool.and_eq_true] at hp
    obtain ⟨⟨hcondition, hyes⟩, hno⟩ := hp
    obtain ⟨x, ha, hb⟩ := h.of_shows hcondition
    simp only [Together, renderPart, ha, hb]
    split
    · exact parts_together yes h hyes
    · exact parts_together no h hno
  | .each list body none =>
    obtain ⟨item, hs, hbody⟩ := (Option.any_eq_true _ _).mp hp
    have hr := together_repeated none h hs
      (fun c d hcd => parts_together body hcd hbody) (by simp)
    simpa only [Together, renderPart, Option.map_none] using hr
  | .each list body (some other) =>
    simp only [Part.within, Bool.and_eq_true] at hp
    obtain ⟨item, hs, hbody⟩ := (Option.any_eq_true _ _).mp hp.1
    have hother := parts_together other h hp.2
    have hr := together_repeated (some (renderParts other)) h hs
      (fun c d hcd => parts_together body hcd hbody) (by simpa using hother)
    simpa only [Together, renderPart, Option.map_some] using hr
  | .unknown => cases hp

/-- Parts that are within a schema give the same text for values that the schema relates. -/
theorem parts_together (parts : List Part) {schema : Schema} {a b : Scope}
    (h : schema.Relates a.value b.value) (hp : partsWithin schema parts = true) :
    Together (renderParts parts) a b := by
  match parts with
  | [] => exact ⟨"", rfl, rfl⟩
  | part :: rest =>
    simp only [partsWithin, Bool.and_eq_true] at hp
    obtain ⟨s, ha, hb⟩ := Part.together part h hp.1
    obtain ⟨t, has, hbs⟩ := parts_together rest h hp.2
    refine ⟨s ++ t, ?_, ?_⟩
    · rw [renderParts, ha, has]
      rfl
    · rw [renderParts, hb, hbs]
      rfl

end

end Scaffold.Template
