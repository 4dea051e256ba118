import Scaffold.Proofs.Text.Backslash

namespace Scaffold.Text

/-- For each `mark` of a text in order, whether a backslash takes it. `taken` says whether one takes the first
character of the text. -/
def marksTaken (mark : Char) (taken : Bool) : List Char → List Bool
  | [] => []
  | c :: rest => (if c = mark then [taken] else []) ++ marksTaken mark (c == '\\' && !taken) rest

variable {mark : Char} {taken : Bool} {a b cs : List Char}

theorem marksTaken_append (mark : Char) (taken : Bool) (a b : List Char) :
    marksTaken mark taken (a ++ b) = marksTaken mark taken a ++ marksTaken mark (takesNext taken a) b := by
  induction a generalizing taken with
  | nil => rfl
  | cons c a ih => rw [List.cons_append, marksTaken, marksTaken, ih, takesNext, List.append_assoc]

/-- The marks of a text, each by the text before it. -/
theorem mem_marksTaken_iff {status : Bool} :
    status ∈ marksTaken mark taken cs ↔
      ∃ before after, cs = before ++ mark :: after ∧ takesNext taken before = status := by
  induction cs generalizing taken with
  | nil => simp [marksTaken]
  | cons c cs ih =>
    rw [marksTaken, List.mem_append, ih]
    constructor
    · rintro (h | ⟨before, after, rfl, h⟩)
      · split at h
        · next hc =>
          obtain rfl := List.mem_singleton.mp h
          exact ⟨[], cs, by rw [hc]; rfl, rfl⟩
        · cases h
      · exact ⟨c :: before, after, rfl, h⟩
    · rintro ⟨before, after, hcs, h⟩
      cases before with
      | nil =>
        obtain ⟨rfl, -⟩ := List.cons_eq_cons.mp hcs
        rw [if_pos rfl]
        exact .inl (List.mem_singleton.mpr h.symm)
      | cons d before =>
        obtain ⟨rfl, rfl⟩ := List.cons_eq_cons.mp hcs
        exact .inr ⟨before, after, rfl, h⟩

/-- All marks are taken exactly if an odd run of backslashes stands before each of them. -/
theorem forall_marksTaken_iff_odd :
    (∀ status ∈ marksTaken mark false cs, status = true) ↔
      ∀ before after, cs = before ++ mark :: after → slashRun before % 2 = 1 := by
  constructor
  · intro h before after hcs
    exact (takesNext_iff_odd_slashRun before).mp (h _ (mem_marksTaken_iff.mpr ⟨before, after, hcs, rfl⟩))
  · intro h status hstatus
    obtain ⟨before, after, hcs, rfl⟩ := mem_marksTaken_iff.mp hstatus
    exact (takesNext_iff_odd_slashRun before).mpr (h before after hcs)

/-- All marks are free exactly if an even run of backslashes stands before each of them. -/
theorem forall_marksTaken_iff_even :
    (∀ status ∈ marksTaken mark false cs, status = false) ↔
      ∀ before after, cs = before ++ mark :: after → slashRun before % 2 = 0 := by
  have hodd (before : List Char) : takesNext false before = false ↔ slashRun before % 2 = 0 := by
    rw [← Bool.not_eq_true, takesNext_iff_odd_slashRun]
    omega
  constructor
  · intro h before after hcs
    exact (hodd before).mp (h _ (mem_marksTaken_iff.mpr ⟨before, after, hcs, rfl⟩))
  · intro h status hstatus
    obtain ⟨before, after, hcs, rfl⟩ := mem_marksTaken_iff.mp hstatus
    exact (hodd before).mpr (h before after hcs)

/-- The words of a text are the pieces between its blanks that are not empty. -/
theorem words_eq_filter (cs : List Char) :
    words cs = (splitWhere isBlank cs).filter fun piece => !piece.isEmpty := by
  induction cs with
  | nil => rfl
  | cons c cs ih =>
    obtain ⟨first, rest, hrest⟩ := List.exists_cons_of_ne_nil (splitWhere_ne_nil isBlank cs)
    rw [hrest] at ih
    rw [words.eq_def]
    cases hc : isBlank c with
    | true => simp [splitWhere, hc, hrest, ih]
    | false =>
      simp only [splitWhere, hc, hrest, Bool.false_eq_true, if_false]
      cases cs with
      | nil =>
        obtain ⟨rfl, rfl⟩ := List.cons_eq_cons.mp hrest
        rfl
      | cons d cs =>
        rw [ih]
        -- The word of `c` goes on exactly if no blank comes next.
        cases hd : isBlank d with
        | true =>
          simp only [splitWhere, hd, if_true, List.cons.injEq] at hrest
          obtain ⟨rfl, -⟩ := hrest
          rw [List.filter_cons_of_neg (by decide), List.filter_cons_of_pos rfl]
          cases rest.filter fun piece => !piece.isEmpty <;> simp [hd]
        | false =>
          obtain ⟨piece, pieces, hpieces⟩ := List.exists_cons_of_ne_nil (splitWhere_ne_nil isBlank cs)
          simp only [splitWhere, hd, Bool.false_eq_true, if_false, hpieces, List.cons.injEq] at hrest
          obtain ⟨rfl, -⟩ := hrest
          rw [List.filter_cons_of_pos rfl, List.filter_cons_of_pos rfl]
          simp [hd]

/-- A character that is no mark and no backslash parts the marks before it from those behind it. -/
theorem marksTaken_cons {c : Char} (hmark : c ≠ mark) (hslash : c ≠ '\\') (taken : Bool) (cs : List Char) :
    marksTaken mark taken (c :: cs) = marksTaken mark false cs := by
  rw [marksTaken, if_neg hmark, beq_false_of_ne hslash, Bool.false_and, List.nil_append]

theorem marksTaken_splitWhere {p : Char → Bool} (hp : ∀ c, p c = true → c ≠ mark ∧ c ≠ '\\')
    {piece : List Char} {pieces : List (List Char)} (h : splitWhere p cs = piece :: pieces) :
    marksTaken mark taken cs =
      marksTaken mark taken piece ++ pieces.flatMap (marksTaken mark false) := by
  induction cs generalizing taken piece pieces with
  | nil =>
    obtain ⟨rfl, rfl⟩ := List.cons_eq_cons.mp h
    rfl
  | cons c cs ih =>
    obtain ⟨first, rest, hrest⟩ := List.exists_cons_of_ne_nil (splitWhere_ne_nil p cs)
    cases hc : p c with
    | true =>
      simp only [splitWhere, hc, if_true, List.cons.injEq] at h
      obtain ⟨rfl, rfl⟩ := h
      rw [marksTaken_cons (hp c hc).1 (hp c hc).2, ih hrest, hrest, List.flatMap_cons]
      rfl
    | false =>
      simp only [splitWhere, hc, Bool.false_eq_true, if_false, hrest, List.cons.injEq] at h
      obtain ⟨rfl, rfl⟩ := h
      rw [marksTaken, marksTaken, ih hrest, List.append_assoc]

theorem marksTaken_intercalate (hmark : mark ≠ ' ') (ws : List (List Char)) :
    marksTaken mark false ([' '].intercalate ws) = ws.flatMap (marksTaken mark false) := by
  induction ws with
  | nil => rfl
  | cons w ws ih =>
    cases ws with
    | nil => simp
    | cons v ws =>
      rw [List.intercalate_cons_cons, List.append_assoc, marksTaken_append, List.singleton_append,
        marksTaken_cons hmark.symm (by decide), ih, List.flatMap_cons, List.flatMap_cons, List.flatMap_cons]

/-- Laying a text flat leaves its marks as they are, taken or free. -/
theorem marksTaken_flatten (hmark : isBlank mark = false) (s : String) :
    marksTaken mark false (flatten s).toList = marksTaken mark false s.toList := by
  have hblank (c : Char) (hc : isBlank c = true) : c ≠ mark ∧ c ≠ '\\' := by
    refine ⟨fun h => ?_, fun h => ?_⟩
    · rw [← h, hc] at hmark
      cases hmark
    · rw [h] at hc
      exact absurd hc (by decide)
  have hspace : mark ≠ ' ' := fun h => (hblank ' ' (by decide)).1 h.symm
  have hflat : (flatten s).toList = [' '].intercalate (words s.toList) := by
    rw [flatten, String.toList_intercalate, List.map_map]
    simp [Function.comp_def]
  obtain ⟨piece, pieces, hpieces⟩ := List.exists_cons_of_ne_nil (splitWhere_ne_nil isBlank s.toList)
  have hempty (ps : List (List Char)) : (ps.filter fun p => !p.isEmpty).flatMap (marksTaken mark false) =
      ps.flatMap (marksTaken mark false) := by
    induction ps with
    | nil => rfl
    | cons p ps ih =>
      cases p with
      | nil => simpa [marksTaken] using ih
      | cons c p => simp [ih]
  rw [hflat, marksTaken_intercalate hspace, words_eq_filter, hempty, hpieces, List.flatMap_cons,
    marksTaken_splitWhere hblank hpieces]

/-- A text in which no `mark` is taken by a backslash, and whose end takes nothing. -/
structure Bare (mark : Char) (cs : List Char) : Prop where
  ends : takesNext false cs = false
  marks : ∀ status ∈ marksTaken mark false cs, status = false

namespace Bare

theorem nil (mark : Char) : Bare mark [] where
  ends := rfl
  marks _ h := absurd h List.not_mem_nil

theorem append (ha : Bare mark a) (hb : Bare mark b) : Bare mark (a ++ b) where
  ends := by rw [takesNext_append, ha.ends, hb.ends]
  marks := by
    rw [marksTaken_append, ha.ends]
    exact List.forall_mem_append.mpr ⟨ha.marks, hb.marks⟩

/-- A character that is no backslash. -/
theorem singleton {c : Char} (h : c ≠ '\\') : Bare mark [c] where
  ends := by
    rw [takesNext, takesNext, beq_false_of_ne h]
    rfl
  marks status hstatus := by
    rw [marksTaken, marksTaken, List.append_nil] at hstatus
    split at hstatus
    · exact List.mem_singleton.mp hstatus
    · cases hstatus

/-- A backslash and a character that it takes, which is no mark. -/
theorem pair {e : Char} (hmark : mark ≠ '\\') (h : e ≠ mark) : Bare mark ['\\', e] where
  ends := by simp [takesNext]
  marks status hstatus := by simp [marksTaken, hmark.symm, h] at hstatus

theorem flatMap {f : Char → List Char} (h : ∀ c, Bare mark (f c)) (cs : List Char) :
    Bare mark (cs.flatMap f) := by
  induction cs with
  | nil => exact .nil mark
  | cons c cs ih => exact (h c).append ih

/-- Characters among which is no backslash. -/
theorem of_forall (h : ∀ c ∈ cs, c ≠ '\\') : Bare mark cs := by
  induction cs with
  | nil => exact .nil mark
  | cons c cs ih =>
    obtain ⟨hc, hrest⟩ := List.forall_mem_cons.mp h
    exact (singleton hc).append (ih hrest)

theorem of_all (h : (cs.all (· != '\\')) = true) : Bare mark cs :=
  of_forall fun c hc => bne_iff_ne.mp (List.all_eq_true.mp h c hc)

theorem intercalate {separator : String} {xs : List String} (hseparator : Bare mark separator.toList)
    (h : ∀ x ∈ xs, Bare mark x.toList) : Bare mark (separator.intercalate xs).toList := by
  induction xs with
  | nil => exact .nil mark
  | cons x xs ih =>
    obtain ⟨hx, hrest⟩ := List.forall_mem_cons.mp h
    cases xs with
    | nil => rwa [String.intercalate_singleton]
    | cons y ys =>
      rw [String.intercalate_cons_cons, String.toList_append, String.toList_append]
      exact (hx.append hseparator).append (ih hrest)

/-- The letters of the escapes of a quoted text. -/
def escapeLetters : List Char := ['"', '\\', 'b', 'f', 'n', 'r', 't', 'u']

/-- A quoted text doubles its backslashes, so a mark that is no letter of an escape is free in it. -/
theorem sourceChar (hmark : mark ∉ escapeLetters) (c : Char) : Bare mark (Text.sourceChar c) := by
  have hpair {e : Char} (he : e ∈ escapeLetters) : Bare mark ['\\', e] := by
    refine pair ?_ ?_
    · rintro rfl
      exact hmark (by decide)
    · rintro rfl
      exact hmark he
  have hhex (n : Nat) : Bare mark (hexEscape n) := by
    refine (hpair (by decide : 'u' ∈ escapeLetters)).append (of_forall fun d hd => ?_)
    simp only [List.mem_cons, List.not_mem_nil, or_false] at hd
    rcases hd with rfl | rfl | rfl | rfl <;>
      exact ((isInert_iff _).mp (isInert_digitChar (Nat.mod_lt _ (by decide)))).2.1
  unfold Text.sourceChar
  split
  · exact hhex c.toNat
  unfold jsonChar
  -- The characters with a letter for their escape come first.
  iterate 7
    split
    · exact hpair (by decide)
  split
  · exact hhex c.toNat
  · next hslash _ _ _ _ _ _ => exact singleton hslash

theorem quote (hmark : mark ∉ escapeLetters) (s : String) : Bare mark (Text.quote s).toList := by
  have hframe : Bare mark ['"'] := singleton (by decide)
  rw [Text.quote, quoteWith, String.toList_ofList]
  exact hframe.append ((flatMap (sourceChar hmark) s.toList).append hframe)

end Bare

end Scaffold.Text
