namespace Scaffold.Keyed

variable {κ α : Type} [BEq κ]

/-- The list with a value under a key: a key that is there already keeps its place and takes the new
value, a new one comes at the end. -/
def put (key : κ) (value : α) : List (κ × α) → List (κ × α)
  | [] => [(key, value)]
  | (k, v) :: rest => if k == key then (k, value) :: rest else (k, v) :: put key value rest

variable [LawfulBEq κ]

/-- A value under a new key comes at the end. -/
theorem put_of_not_mem {key : κ} {entries : List (κ × α)} (h : key ∉ entries.map Prod.fst) (value : α) :
    put key value entries = entries ++ [(key, value)] := by
  induction entries with
  | nil => rfl
  | cons entry rest ih =>
    obtain ⟨k, v⟩ := entry
    rw [List.map_cons, List.mem_cons, not_or] at h
    have hk : (k == key) = false := beq_false_of_ne fun heq => h.1 heq.symm
    simp only [put, hk, Bool.false_eq_true, if_false, ih h.2, List.cons_append]

/-- What was put under a key is found there. -/
theorem lookup_put_self (key : κ) (value : α) (entries : List (κ × α)) :
    (put key value entries).lookup key = some value := by
  induction entries with
  | nil => exact List.lookup_cons_self
  | cons entry rest ih =>
    obtain ⟨k, v⟩ := entry
    by_cases hk : k = key
    · simp only [put, hk, beq_self_eq_true, if_true, List.lookup_cons_self]
    · have hput : (k == key) = false := beq_false_of_ne hk
      have hlook : (key == k) = false := beq_false_of_ne fun h => hk h.symm
      simp only [put, hput, Bool.false_eq_true, if_false, List.lookup_cons, hlook, ih]

/-- Putting a value under a key leaves what is under the other keys. -/
theorem lookup_put_of_ne {key other : κ} (h : other ≠ key) (value : α) (entries : List (κ × α)) :
    (put key value entries).lookup other = entries.lookup other := by
  have hb : (other == key) = false := beq_false_of_ne h
  induction entries with
  | nil => simp only [put, List.lookup_cons, hb]
  | cons entry rest ih =>
    obtain ⟨k, v⟩ := entry
    by_cases hk : k = key
    · subst hk
      simp only [put, beq_self_eq_true, if_true, List.lookup_cons, hb]
    · have hput : (k == key) = false := beq_false_of_ne hk
      simp only [put, hput, Bool.false_eq_true, if_false, List.lookup_cons, ih]

/-- A look-up in a list that a value was put into. -/
theorem lookup_put (key other : κ) (value : α) (entries : List (κ × α)) :
    (put key value entries).lookup other =
      if other == key then some value else entries.lookup other := by
  by_cases h : other = key
  · simp only [h, beq_self_eq_true, if_true, lookup_put_self]
  · have hb : (other == key) = false := beq_false_of_ne h
    simp only [hb, Bool.false_eq_true, if_false, lookup_put_of_ne h]

end Scaffold.Keyed
