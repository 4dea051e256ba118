import Scaffold.Proofs.Text.StringLiteral
import Scaffold.Source.Literal

namespace Scaffold.Text

/-- No piece of a list is longer than the list, so a list of pieces that are not empty has no more pieces
than characters. -/
theorem length_le_length_intercalate (separator : List Char) {pieces : List (List Char)}
    (h : ∀ piece ∈ pieces, piece ≠ []) :
    pieces.length ≤ (List.intercalate separator pieces).length := by
  induction pieces with
  | nil => exact Nat.le_refl 0
  | cons piece pieces ih =>
    obtain ⟨hpiece, hrest⟩ := List.forall_mem_cons.mp h
    have hpositive := List.length_pos_of_ne_nil hpiece
    have hlength := ih hrest
    cases pieces with
    | nil =>
      rw [List.intercalate_singleton]
      exact hpositive
    | cons _ _ =>
      rw [List.intercalate_cons_cons, List.length_append, List.length_append, List.length_cons]
      omega

/-- Splits a text at its literals: what stands outside them, and the texts that they spell. `fuel` bounds
the number of literals. -/
def splitLiterals? : ℕ → List Char → Option (List String × List String)
  | 0, _ => none
  | fuel + 1, cs =>
    let outside := String.ofList (cs.takeWhile (· != '"'))
    match cs.dropWhile (· != '"') with
    | [] => some ([outside], [])
    | _ :: body =>
      match readBody? body with
      | none => none
      | some (text, rest) => (splitLiterals? fuel rest).map fun (codes, texts) =>
        (outside :: codes, String.ofList text :: texts)

/-- Splits a text at its literals. There are fewer of them than characters. -/
def literals? (s : String) : Option (List String × List String) :=
  splitLiterals? (s.toList.length + 1) s.toList

/-- What stands outside a list of `n` literals, if nothing else does than what belongs to the list. -/
def listFrame (opener separator closer : String) (n : ℕ) : List String :=
  opener :: (List.replicate (n - 1) separator ++ [closer])

theorem takeWhile_outside {code : String} (h : '"' ∉ code.toList) (rest : List Char) :
    (code.toList ++ '"' :: rest).takeWhile (· != '"') = code.toList ∧
      (code.toList ++ '"' :: rest).dropWhile (· != '"') = '"' :: rest := by
  have hcode : ∀ c ∈ code.toList, (c != '"') = true := by
    intro c hc
    rw [bne_iff_ne]
    rintro rfl
    exact h hc
  rw [List.takeWhile_append_of_pos hcode, List.dropWhile_append_of_pos hcode,
    List.takeWhile_cons_of_neg (by decide), List.dropWhile_cons_of_neg (by decide), List.append_nil]
  exact ⟨rfl, rfl⟩

/-- The first literal of a text is split off with what stands before it. -/
theorem splitLiterals?_quote {code : String} (h : '"' ∉ code.toList) (s : String) (rest : List Char)
    (fuel : ℕ) :
    splitLiterals? (fuel + 1) (code.toList ++ ((quote s).toList ++ rest)) =
      (splitLiterals? fuel rest).map fun (codes, texts) => (code :: codes, s :: texts) := by
  have hbody := (spells_flatMap_sourceChar s.toList).readBody?_eq rest
  obtain ⟨htake, hdrop⟩ := takeWhile_outside h (s.toList.flatMap sourceChar ++ '"' :: rest)
  rw [toList_quote, List.cons_append, List.append_assoc, List.singleton_append, splitLiterals?]
  simp only [htake, hdrop, hbody, String.ofList_toList]

theorem splitLiterals?_outside {code : String} (h : '"' ∉ code.toList) (fuel : ℕ) :
    splitLiterals? (fuel + 1) code.toList = some ([code], []) := by
  have hcode : ∀ c ∈ code.toList, (c != '"') = true := by
    intro c hc
    rw [bne_iff_ne]
    rintro rfl
    exact h hc
  rw [splitLiterals?, List.takeWhile_eq_self_iff.mpr hcode, List.dropWhile_eq_nil_iff.mpr hcode]
  simp only [String.ofList_toList]

variable {separator closer : String}

theorem splitLiterals?_intercalate (hseparator : '"' ∉ separator.toList) (hcloser : '"' ∉ closer.toList)
    (v : String) (vs : List String) :
    ∀ {opener : String} {fuel : ℕ}, '"' ∉ opener.toList → vs.length + 1 < fuel →
      splitLiterals? fuel (opener.toList ++ (List.intercalate separator.toList
        ((quoteAll (v :: vs)).map String.toList) ++ closer.toList)) =
        some (listFrame opener separator closer (vs.length + 1), v :: vs) := by
  -- Induction on the items behind the first: each step moves the opener to the next separator.
  induction vs generalizing v with
  | nil =>
    intro opener fuel hopener hfuel
    obtain ⟨n, rfl⟩ : ∃ n, fuel = n + 1 + 1 := ⟨fuel - 2, by rw [List.length_nil] at hfuel; omega⟩
    have hitems : List.intercalate separator.toList ((quoteAll [v]).map String.toList) =
        (quote v).toList := List.intercalate_singleton
    rw [hitems, splitLiterals?_quote hopener, splitLiterals?_outside hcloser]
    rfl
  | cons w vs ih =>
    intro opener fuel hopener hfuel
    rw [List.length_cons] at hfuel
    obtain ⟨n, rfl⟩ : ∃ n, fuel = n + 1 := ⟨fuel - 1, by omega⟩
    have hitems : List.intercalate separator.toList ((quoteAll (v :: w :: vs)).map String.toList) =
        (quote v).toList ++ (separator.toList ++
          List.intercalate separator.toList ((quoteAll (w :: vs)).map String.toList)) := by
      rw [quoteAll, List.map_cons, List.map_cons, List.map_cons, List.map_cons, List.intercalate_cons_cons,
        List.append_assoc]
      rfl
    rw [hitems, List.append_assoc, List.append_assoc, splitLiterals?_quote hopener,
      ih w hseparator (by omega)]
    rfl

/-- A list of quoted texts is split into the texts and what belongs to a list. -/
theorem literals?_intercalate {opener : String} (hopener : '"' ∉ opener.toList)
    (hseparator : '"' ∉ separator.toList) (hcloser : '"' ∉ closer.toList) {values : List String}
    (hne : values ≠ []) :
    literals? (opener ++ separator.intercalate (quoteAll values) ++ closer) =
      some (listFrame opener separator closer values.length, values) := by
  obtain ⟨v, vs, rfl⟩ := List.exists_cons_of_ne_nil hne
  have hlength : vs.length + 1 ≤
      (List.intercalate separator.toList ((quoteAll (v :: vs)).map String.toList)).length := by
    have hpieces : ∀ piece ∈ (quoteAll (v :: vs)).map String.toList, piece ≠ [] := by
      intro piece hpiece
      rw [quoteAll, List.map_map] at hpiece
      obtain ⟨s, -, rfl⟩ := List.mem_map.mp hpiece
      rw [Function.comp_apply, toList_quote]
      exact List.cons_ne_nil _ _
    have hle := length_le_length_intercalate separator.toList hpieces
    rwa [List.length_map, quoteAll, List.length_map] at hle
  rw [literals?, String.toList_append, String.toList_append, String.toList_intercalate, List.append_assoc]
  apply splitLiterals?_intercalate hseparator hcloser v vs hopener
  rw [List.length_append, List.length_append]
  omega

end Scaffold.Text
