import Scaffold.Proofs.Json.Layout

namespace Scaffold.Json

variable {α σ : Type}

theorem length_le_flatMap_comma {p : Input} {ps : List Input} (h : p ∈ ps) :
    p.length ≤ (ps.flatMap (',' :: ·)).length := by
  induction ps with
  | nil => cases h
  | cons q ps ih =>
    rw [List.flatMap_cons, List.length_append, List.length_cons]
    rcases List.mem_cons.mp h with rfl | h
    · omega
    · have := ih h
      omega

theorem length_le_length_flatMap_comma (ps : List Input) :
    ps.length ≤ (ps.flatMap (',' :: ·)).length := by
  induction ps with
  | nil => exact Nat.le_refl 0
  | cons q ps ih =>
    rw [List.flatMap_cons, List.length_append, List.length_cons, List.length_cons]
    omega

/-- Parts between brackets are shorter than the whole. -/
theorem length_le_bracketed (ps : List Input) (opening closing : Char) :
    (∀ p ∈ ps, p.length ≤ (opening :: ([','].intercalate ps ++ [closing])).length) ∧
      ps.length < (opening :: ([','].intercalate ps ++ [closing])).length := by
  cases ps with
  | nil => exact ⟨fun p hp => absurd hp List.not_mem_nil, Nat.zero_lt_succ _⟩
  | cons q ps =>
    rw [intercalate_comma]
    simp only [List.length_cons, List.length_append, List.length_nil, List.mem_cons]
    refine ⟨?_, ?_⟩
    · rintro p (rfl | hp)
      · omega
      · have := length_le_flatMap_comma hp
        omega
    · have := length_le_length_flatMap_comma ps
      omega

/-- A comma or the closing mark stands behind each part. -/
theorem delimited_flatMap_comma (ps : List Input) {closing : Char}
    (h : closing ∈ itemEnds) (rest : Input) :
    Delimited (ps.flatMap (',' :: ·) ++ closing :: rest) := by
  cases ps with
  | nil => exact delimited_cons h rest
  | cons p ps => exact delimited_cons (by decide) _

theorem nextItem_opens {cs : Input} (h : Opens cs) (rest : Input) :
    nextItem true (cs ++ rest) = .ok (true, cs ++ rest) := by
  obtain ⟨c, tail, rfl, hspace, -, hclose⟩ := h
  exact nextItem_first blank_nil hspace hclose (tail ++ rest)

theorem nextItem_comma {cs : Input} (h : Opens cs) (rest : Input) :
    nextItem false (',' :: (cs ++ rest)) = .ok (true, cs ++ rest) := by
  obtain ⟨c, tail, rfl, hspace, -, hclose⟩ := h
  exact nextItem_next blank_nil hspace hclose (tail ++ rest)

section Items

variable {read : Input → Except Problem (α × Input)} {text : α → Input}

theorem listItems_cons {fuel : Nat} {first : Bool} {cs next after rest : Input} {v : α} {vs : List α}
    (hnext : nextItem first cs = .ok (true, next)) (hread : read next = .ok (v, after))
    (hitems : listItems read fuel false after = .ok (vs, rest)) :
    listItems read (fuel + 1) first cs = .ok (v :: vs, rest) := by
  rw [listItems, hnext]
  change ((read next).bind fun r =>
    (listItems read fuel false r.2).bind fun rs => .ok (r.1 :: rs.1, rs.2)) = _
  rw [hread, Except.bind, hitems, Except.bind]

/-- The items of a list are read one after the other, each with the rest of the list behind it. -/
theorem listItems_flatMap {vs : List α}
    (h : ∀ v ∈ vs, Opens (text v) ∧ ∀ rest, Delimited rest → read (text v ++ rest) = .ok (v, rest))
    {fuel : Nat} (hfuel : vs.length < fuel) (rest : Input) :
    listItems read fuel false ((vs.map text).flatMap (',' :: ·) ++ ']' :: rest) =
      .ok (vs, ']' :: rest) := by
  induction vs generalizing fuel with
  | nil =>
    obtain ⟨fuel, rfl⟩ := Nat.exists_eq_add_one_of_ne_zero (Nat.ne_of_gt hfuel)
    rfl
  | cons v vs ih =>
    obtain ⟨fuel, rfl⟩ : ∃ k, fuel = k + 1 := ⟨fuel - 1, by omega⟩
    obtain ⟨hopens, hread⟩ := h v List.mem_cons_self
    have hitems := ih (fun v hv => h v (List.mem_cons_of_mem _ hv)) (Nat.lt_of_succ_lt_succ hfuel)
    rw [List.map_cons, List.flatMap_cons, List.cons_append, List.cons_append, List.append_assoc]
    exact listItems_cons (nextItem_comma hopens _)
      (hread _ (delimited_flatMap_comma _ (by decide) rest)) hitems

theorem listItems_intercalate {vs : List α}
    (h : ∀ v ∈ vs, Opens (text v) ∧ ∀ rest, Delimited rest → read (text v ++ rest) = .ok (v, rest))
    {fuel : Nat} (hfuel : vs.length < fuel) (rest : Input) :
    listItems read fuel true ([','].intercalate (vs.map text) ++ ']' :: rest) =
      .ok (vs, ']' :: rest) := by
  obtain ⟨fuel, rfl⟩ : ∃ k, fuel = k + 1 := ⟨fuel - 1, by omega⟩
  cases vs with
  | nil => rfl
  | cons v vs =>
    obtain ⟨hopens, hread⟩ := h v List.mem_cons_self
    have hitems := listItems_flatMap (fun v hv => h v (List.mem_cons_of_mem _ hv))
      (Nat.lt_of_succ_lt_succ hfuel) rest
    rw [List.map_cons, intercalate_comma, List.append_assoc]
    exact listItems_cons (nextItem_opens hopens _)
      (hread _ (delimited_flatMap_comma _ (by decide) rest)) hitems

end Items

/-- A list is read back if its items are. -/
theorem takes_aList {decode : Decoder α} {levels : Nat} {encode : α → Json} {vs : List α}
    (h : ∀ v ∈ vs, decode.Takes levels (encode v) v) :
    (aList decode).Takes (levels + 1) (.array (vs.map encode)) vs := by
  have hline := line_array (vs.map encode)
  rw [List.map_map] at hline
  refine ⟨⟨'[', _, hline, by decide⟩, fun {fuel depth rest} hfuel hdepth _ => ?_⟩
  obtain ⟨hparts, hcount⟩ := length_le_bracketed (vs.map (line ∘ encode)) '[' ']'
  rw [List.length_map] at hcount
  rw [hline] at hfuel ⊢
  obtain ⟨depth, rfl⟩ : ∃ k, depth = k + 1 := ⟨depth - 1, by omega⟩
  have hitems : listItems (decode fuel depth) fuel true
      ([','].intercalate (vs.map (line ∘ encode)) ++ ']' :: rest) = .ok (vs, ']' :: rest) := by
    refine listItems_intercalate (fun v hv => ⟨(h v hv).opens, fun rest => ?_⟩)
      (Nat.lt_of_lt_of_le hcount hfuel) rest
    have hpart := Nat.le_trans (hparts _ (List.mem_map_of_mem hv)) hfuel
    exact (h v hv).reads hpart (Nat.le_of_succ_le_succ hdepth)
  rw [List.cons_append, List.append_assoc, List.singleton_append]
  change ((listItems (decode fuel depth) fuel true _).bind fun r =>
    (closeList r.2).bind fun rest => .ok (r.1, rest)) = _
  rw [hitems]
  rfl

variable {shape : Shape σ} {levels : Nat}

/-- The members, read in order, make one record of another. -/
inductive Fills (shape : Shape σ) (levels : Nat) : List (String × Json) → σ → σ → Prop
  | nil (r : σ) : Fills shape levels [] r r
  | cons {key : String} {j : Json} {f : Field σ} {set : σ → σ} {members : List (String × Json)}
    {r r' : σ} (hfind : shape.fields.find? (·.name == key) = some f)
    (htakes : f.decode.Takes levels j set) (hrest : Fills shape levels members (set r) r') :
    Fills shape levels ((key, j) :: members) r r'

theorem Fills.append {ms ms' : List (String × Json)} {r r' r'' : σ} (h : Fills shape levels ms r r')
    (h' : Fills shape levels ms' r' r'') : Fills shape levels (ms ++ ms') r r'' := by
  induction h with
  | nil => exact h'
  | cons hfind htakes _ ih => exact .cons hfind htakes (ih h')

/-- A member sets the field of its name. -/
theorem Fills.one {name : String} {required : Bool} {decode : Decoder α} {set : α → σ → σ} {j : Json}
    {v : α} {r r' : σ}
    (hfind : shape.fields.find? (·.name == name) = some (field name required decode set))
    (h : decode.Takes levels j v) (hset : set v r = r') : Fills shape levels [(name, j)] r r' := by
  subst hset
  refine .cons hfind ⟨h.opens, fun hfuel hdepth hrest => ?_⟩ (.nil _)
  rw [field]
  dsimp only
  rw [h.reads hfuel hdepth hrest]
  rfl

/-- A member that is there only if its value is sets the field to the value, or leaves it absent. -/
theorem Fills.optional {name : String} {required : Bool} {decode : Decoder α}
    {set : Option α → σ → σ} {encode : α → Json} {o : Option α} {r r' : σ}
    (hfind : shape.fields.find? (·.name == name) =
      some (field name required (Json.optional decode) set))
    (h : ∀ v ∈ o, decode.Takes levels (encode v) v) (habsent : set none r = r) (hset : set o r = r') :
    Fills shape levels (member? name encode o) r r' := by
  cases o with
  | none =>
    rw [← hset, habsent]
    exact .nil r
  | some v => exact .one hfind (takes_optional (h v rfl)) hset

/-- One member is read into the record. -/
theorem namedFields_cons {steps depth fuel : Nat} {first : Bool} {seen : List String} {r : σ}
    {cs tail after : Input} {key : String} {f : Field σ} {set : σ → σ}
    (hnext : nextKey first cs = .ok (true, tail)) (hkey : readString tail = .ok (key, ':' :: after))
    (hfind : shape.fields.find? (·.name == key) = some f) (hseen : key ∉ seen) {rest : Input}
    (hset : f.decode steps depth after = .ok (set, rest)) :
    namedFields shape steps depth (fuel + 1) first seen r cs =
      namedFields shape steps depth fuel false (key :: seen) (set r) rest := by
  have hcolon : readColon (':' :: after) = .ok after := rfl
  rw [namedFields, hnext]
  dsimp only [bind, Except.bind]
  rw [if_pos rfl, hkey]
  dsimp only
  rw [hfind]
  dsimp only
  rw [List.contains_eq_mem, decide_eq_false hseen, if_neg Bool.false_ne_true, hcolon]
  dsimp only
  rw [hset]

/-- The text of a member is its opening quote and what is read as its key. -/
theorem exists_memberLine (m : String × Json) :
    ∃ cs, (∀ rest, memberLine m ++ rest = '"' :: (cs ++ ':' :: (line m.2 ++ rest))) ∧
      ∀ rest, readString (cs ++ rest) = .ok (m.1, rest) := by
  obtain ⟨cs, hquote, hread⟩ := exists_toList_jsonQuote m.1
  refine ⟨cs, fun rest => ?_, hread⟩
  rw [memberLine, hquote, List.cons_append, List.cons_append, List.append_assoc, List.cons_append]

section Members

variable {steps depth : Nat}

/-- The members of an object are read one after the other, and their keys are then known. -/
theorem Fills.namedFields_flatMap {members : List (String × Json)} {r r' : σ}
    (h : Fills shape levels members r r') (hsteps : ∀ m ∈ members, (line m.2).length ≤ steps)
    (hdepth : levels ≤ depth) {seen : List String} (hseen : (members.map Prod.fst ++ seen).Nodup)
    {fuel : Nat} (hfuel : members.length < fuel) (rest : Input) :
    namedFields shape steps depth fuel false seen r
        ((members.map memberLine).flatMap (',' :: ·) ++ '\x7d' :: rest) =
      .ok (r', (members.map Prod.fst).reverse ++ seen, '\x7d' :: rest) := by
  induction h generalizing fuel seen with
  | nil =>
    obtain ⟨fuel, rfl⟩ : ∃ k, fuel = k + 1 := ⟨fuel - 1, by omega⟩
    rfl
  | @cons key j f set members r r' hfind htakes hrest ih =>
    obtain ⟨fuel, rfl⟩ : ∃ k, fuel = k + 1 := ⟨fuel - 1, by omega⟩
    obtain ⟨cs, hmember, hkey⟩ := exists_memberLine (key, j)
    obtain ⟨hj, hsteps⟩ := List.forall_mem_cons.mp hsteps
    have hnot : key ∉ seen := fun hmem =>
      (List.nodup_cons.mp hseen).1 (List.mem_append_right _ hmem)
    have hnodup : (members.map Prod.fst ++ key :: seen).Nodup :=
      (List.perm_middle.nodup_iff).mpr hseen
    have hset := htakes.reads hj hdepth (delimited_flatMap_comma (members.map memberLine)
      (by decide : '\x7d' ∈ itemEnds) rest)
    rw [List.map_cons, List.flatMap_cons, List.cons_append, List.cons_append, List.append_assoc,
      hmember, namedFields_cons rfl (hkey _) hfind hnot hset,
      ih hsteps hnodup (Nat.lt_of_succ_lt_succ hfuel), List.map_cons, List.reverse_cons,
      List.append_assoc, List.singleton_append]

theorem Fills.namedFields_intercalate {members : List (String × Json)} {r r' : σ}
    (h : Fills shape levels members r r') (hsteps : ∀ m ∈ members, (line m.2).length ≤ steps)
    (hdepth : levels ≤ depth) (hkeys : (members.map Prod.fst).Nodup) {fuel : Nat}
    (hfuel : members.length < fuel) (rest : Input) :
    namedFields shape steps depth fuel true [] r
        ([','].intercalate (members.map memberLine) ++ '\x7d' :: rest) =
      .ok (r', (members.map Prod.fst).reverse, '\x7d' :: rest) := by
  obtain ⟨fuel, rfl⟩ : ∃ k, fuel = k + 1 := ⟨fuel - 1, by omega⟩
  cases h with
  | nil => rfl
  | @cons key j f set members r r' hfind htakes hrest =>
    obtain ⟨cs, hmember, hkey⟩ := exists_memberLine (key, j)
    obtain ⟨hj, hsteps⟩ := List.forall_mem_cons.mp hsteps
    have hset := htakes.reads hj hdepth (delimited_flatMap_comma (members.map memberLine)
      (by decide : '\x7d' ∈ itemEnds) rest)
    have hnodup : (members.map Prod.fst ++ [key]).Nodup :=
      (List.perm_middle.nodup_iff).mpr (by simpa using hkeys)
    rw [List.map_cons, intercalate_comma, List.append_assoc, hmember,
      namedFields_cons rfl (hkey _) hfind List.not_mem_nil hset,
      hrest.namedFields_flatMap hsteps hdepth hnodup (Nat.lt_of_succ_lt_succ hfuel), List.map_cons,
      List.reverse_cons]

end Members

/-- A record is read back from the object that fills it. -/
theorem takes_aRecord {members : List (String × Json)} {r : σ}
    (h : Fills shape levels members shape.blank r) (hkeys : (members.map Prod.fst).Nodup)
    (hrequired : (shape.fields.filter (·.required)).map (·.name) ⊆ members.map Prod.fst) :
    (aRecord shape).Takes (levels + 1) (.object members) r := by
  have hline := line_object members
  refine ⟨⟨'\x7b', _, hline, by decide⟩, fun {fuel depth rest} hfuel hdepth _ => ?_⟩
  obtain ⟨hparts, hcount⟩ := length_le_bracketed (members.map memberLine) '\x7b' '\x7d'
  rw [List.length_map] at hcount
  rw [hline] at hfuel ⊢
  obtain ⟨depth, rfl⟩ : ∃ k, depth = k + 1 := ⟨depth - 1, by omega⟩
  have hsteps : ∀ m ∈ members, (line m.2).length ≤ fuel := by
    intro m hm
    have hpart := Nat.le_trans (hparts _ (List.mem_map_of_mem hm)) hfuel
    rw [memberLine, List.length_append, List.length_cons] at hpart
    omega
  have hmembers := h.namedFields_intercalate hsteps (Nat.le_of_succ_le_succ hdepth) hkeys
    (Nat.lt_of_lt_of_le hcount hfuel) rest
  -- All required fields were among the members, so none is reported as missing.
  have hnone : (shape.fields.find? fun f =>
      f.required && !(members.map Prod.fst).reverse.contains f.name) = none := by
    rw [List.find?_eq_none]
    intro f hf hmissing
    rw [Bool.and_eq_true, Bool.not_eq_true', List.contains_eq_mem, decide_eq_false_iff_not,
      List.mem_reverse] at hmissing
    exact hmissing.2 (hrequired (List.mem_map_of_mem (List.mem_filter.mpr ⟨hf, hmissing.1⟩)))
  rw [List.cons_append, List.append_assoc, List.singleton_append]
  change ((namedFields shape fuel depth fuel true [] shape.blank _).bind fun r => _) = _
  rw [hmembers]
  dsimp only [Except.bind]
  rw [hnone]
  rfl

/-- Whatever a decoder answers has the property. -/
def Decoder.Yields (decode : Decoder α) (P : α → Prop) : Prop :=
  ∀ ⦃fuel depth : Nat⦄ ⦃cs rest : Input⦄ ⦃v : α⦄, decode fuel depth cs = .ok (v, rest) → P v

theorem yields_optional {decode : Decoder α} {P : α → Prop} (h : decode.Yields P) :
    (optional decode).Yields fun o => ∀ v ∈ o, P v := by
  intro fuel depth cs rest o ho
  unfold optional at ho
  split at ho
  · obtain ⟨after, -, hanswer⟩ := exists_of_bind_eq_ok ho
    cases hanswer
    exact fun v hv => by cases hv
  · obtain ⟨⟨v, after⟩, hread, hanswer⟩ := exists_of_bind_eq_ok ho
    cases hanswer
    exact fun w hw => Option.some.inj hw ▸ h hread

theorem forall_mem_of_listItems {read : Input → Except Problem (α × Input)} {P : α → Prop}
    (h : ∀ cs v rest, read cs = .ok (v, rest) → P v) {fuel : Nat} {first : Bool} {cs rest : Input}
    {vs : List α} (hitems : listItems read fuel first cs = .ok (vs, rest)) : ∀ v ∈ vs, P v := by
  induction fuel generalizing first cs vs rest with
  | zero => cases hitems
  | succ fuel ih =>
    rw [listItems] at hitems
    obtain ⟨⟨more, next⟩, -, hitems⟩ := exists_of_bind_eq_ok hitems
    dsimp only at hitems
    split at hitems
    · obtain ⟨⟨v, after⟩, hread, hitems⟩ := exists_of_bind_eq_ok hitems
      obtain ⟨⟨vs', rest'⟩, hrest, hanswer⟩ := exists_of_bind_eq_ok hitems
      cases hanswer
      exact List.forall_mem_cons.mpr ⟨h _ _ _ hread, ih hrest⟩
    · cases hitems
      exact fun v hv => absurd hv List.not_mem_nil

theorem yields_aList {decode : Decoder α} {P : α → Prop} (h : decode.Yields P) :
    (aList decode).Yields fun vs => ∀ v ∈ vs, P v := by
  intro fuel depth cs rest vs hvs
  unfold aList at hvs
  split at hvs
  · obtain ⟨depth', -, hvs⟩ := exists_of_bind_eq_ok hvs
    obtain ⟨⟨vs', after⟩, hitems, hvs⟩ := exists_of_bind_eq_ok hvs
    obtain ⟨rest', -, hanswer⟩ := exists_of_bind_eq_ok hvs
    cases hanswer
    exact forall_mem_of_listItems (fun _ _ _ hread => h hread) hitems
  · cases hvs

/-- Whatever is read into a field, a record that has the property keeps it. -/
def Field.Keeps (f : Field σ) (P : σ → Prop) : Prop :=
  f.decode.Yields fun set => ∀ r, P r → P (set r)

theorem keeps_field {decode : Decoder α} {Q : α → Prop} {P : σ → Prop} {set : α → σ → σ}
    (h : decode.Yields Q) (hset : ∀ v r, Q v → P r → P (set v r)) (name : String) (required : Bool) :
    (field name required decode set).Keeps P := by
  intro fuel depth cs rest set' hset'
  obtain ⟨⟨v, after⟩, hread, hanswer⟩ := exists_of_bind_eq_ok hset'
  cases hanswer
  exact fun r hr => hset v r (h hread) hr

/-- A field that the property does not look at. -/
theorem keeps_other {decode : Decoder α} {P : σ → Prop} {set : α → σ → σ}
    (hset : ∀ v r, P r → P (set v r)) (name : String) (required : Bool) :
    (field name required decode set).Keeps P := by
  have hany : decode.Yields fun _ => True := fun _ _ _ _ _ _ => trivial
  exact keeps_field hany (fun v r _ => hset v r) name required

section Keeps

variable {P : σ → Prop} (hkeeps : ∀ f ∈ shape.fields, f.Keeps P)
include hkeeps

theorem positionalFields_keeps {fuel depth : Nat} {fields : List (Field σ)}
    (hfields : fields ⊆ shape.fields) {index : Nat} {r r' : σ} {cs rest : Input} (hr : P r)
    (h : positionalFields shape fuel depth fields index r cs = .ok (r', rest)) : P r' := by
  induction fields generalizing index r cs with
  | nil =>
    cases h
    exact hr
  | cons f fields ih =>
    have hrest : fields ⊆ shape.fields := fun g hg => hfields (List.mem_cons_of_mem _ hg)
    rw [positionalFields] at h
    obtain ⟨⟨more, next⟩, -, h⟩ := exists_of_bind_eq_ok h
    dsimp only at h
    split at h
    · obtain ⟨⟨set, after⟩, hset, h⟩ := exists_of_bind_eq_ok h
      exact ih hrest (hkeeps f (hfields List.mem_cons_self) hset r hr) h
    · split at h
      · cases h
      · exact ih hrest hr h

theorem namedFields_keeps {steps depth fuel : Nat} {first : Bool} {seen seen' : List String} {r r' : σ}
    {cs rest : Input} (hr : P r)
    (h : namedFields shape steps depth fuel first seen r cs = .ok (r', seen', rest)) : P r' := by
  induction fuel generalizing first seen r cs with
  | zero => cases h
  | succ fuel ih =>
    rw [namedFields] at h
    obtain ⟨⟨more, next⟩, -, h⟩ := exists_of_bind_eq_ok h
    dsimp only at h
    split at h
    · obtain ⟨⟨key, tail⟩, -, h⟩ := exists_of_bind_eq_ok h
      dsimp only at h
      split at h
      · next f hf =>
        split at h
        · cases h
        · obtain ⟨after, -, h⟩ := exists_of_bind_eq_ok h
          obtain ⟨⟨set, after'⟩, hset, h⟩ := exists_of_bind_eq_ok h
          exact ih (hkeeps f (List.mem_of_find?_eq_some hf) hset r hr) h
      · obtain ⟨after, -, h⟩ := exists_of_bind_eq_ok h
        obtain ⟨after', -, h⟩ := exists_of_bind_eq_ok h
        exact ih hr h
    · cases h
      exact hr

theorem yields_aRecord (hblank : P shape.blank) : (aRecord shape).Yields P := by
  intro fuel depth cs rest r h
  unfold aRecord at h
  split at h
  · obtain ⟨depth', -, h⟩ := exists_of_bind_eq_ok h
    obtain ⟨⟨r', after⟩, hfields, h⟩ := exists_of_bind_eq_ok h
    obtain ⟨rest', -, hanswer⟩ := exists_of_bind_eq_ok h
    cases hanswer
    exact positionalFields_keeps hkeeps (List.Subset.refl _) hblank hfields
  · obtain ⟨depth', -, h⟩ := exists_of_bind_eq_ok h
    obtain ⟨⟨r', seen, after⟩, hfields, h⟩ := exists_of_bind_eq_ok h
    dsimp only at h
    split at h
    · cases h
    · obtain ⟨rest', -, hanswer⟩ := exists_of_bind_eq_ok h
      cases hanswer
      exact namedFields_keeps hkeeps hblank hfields
  · cases h

end Keeps

end Scaffold.Json
