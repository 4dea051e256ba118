import Mathlib
import Scaffold.Proofs.Files.Names
import Scaffold.Proofs.Number.Plain

namespace Scaffold.Text

open PlainDecimal (oneOf)

variable {c d : Char} {cs : List Char}

/-- The letters and digits of ASCII in a text, in small letters. -/
def smallAlphanums (cs : List Char) : List Char := (cs.filter Char.isAlphanum).map Char.toLower

theorem smallAlphanums_cons_of_pos (hc : c.isAlphanum = true) (cs : List Char) :
    smallAlphanums (c :: cs) = c.toLower :: smallAlphanums cs := by
  rw [smallAlphanums, List.filter_cons_of_pos hc, List.map_cons, smallAlphanums]

theorem smallAlphanums_cons_of_neg (hc : ¬c.isAlphanum = true) (cs : List Char) :
    smallAlphanums (c :: cs) = smallAlphanums cs := by
  rw [smallAlphanums, List.filter_cons_of_neg hc, smallAlphanums]

theorem isDigit_or_isLower_toLower (hc : c.isAlphanum = true) :
    c.toLower.isDigit = true ∨ c.toLower.isLower = true := by
  rcases Bool.or_eq_true_iff.mp hc with halpha | hdigit
  · exact .inr (by rw [Char.isLower_toLower_eq_isAlpha, halpha])
  · have hupper : ¬c.isUpper = true := by
      simp only [Char.isUpper, Char.isDigit, Bool.and_eq_true, decide_eq_true_eq, ge_iff_le,
        UInt32.le_iff_toNat_le, Char.reduceVal, UInt32.reduceToNat] at hdigit ⊢
      omega
    exact .inl (by rw [Char.toLower_eq_of_not_isUpper hupper, hdigit])

theorem isAlphanum_toLower (hc : c.isAlphanum = true) : c.toLower.isAlphanum = true := by
  rcases isDigit_or_isLower_toLower hc with h | h <;> simp [Char.isAlphanum, Char.isAlpha, h]

theorem toLower_ne_dash (hc : c.isAlphanum = true) : c.toLower ≠ '-' := by
  intro h
  have hlower := isAlphanum_toLower hc
  rw [h] at hlower
  exact Bool.false_ne_true hlower

/-- A letter or digit is written behind a dash if something else came before it, and behind it nothing is
pending. -/
theorem slugChars_cons_of_pos (hc : c.isAlphanum = true) (started gap : Bool) (rest : List Char) :
    slugChars started gap (c :: rest) =
      (if started && gap then ['-'] else []) ++ c.toLower :: slugChars true false rest := by
  rw [slugChars, if_pos hc]
  split <;> rfl

theorem slugChars_cons_of_neg (hc : ¬c.isAlphanum = true) (started gap : Bool) (rest : List Char) :
    slugChars started gap (c :: rest) = slugChars started true rest := by
  rw [slugChars, if_neg hc]

/-- Without its dashes a slug is the letters and digits of the name. -/
theorem filter_slugChars (started gap : Bool) (cs : List Char) :
    (slugChars started gap cs).filter (· != '-') = smallAlphanums cs := by
  induction cs generalizing started gap with
  | nil => rfl
  | cons c rest ih =>
    by_cases hc : c.isAlphanum = true
    · have hdash : (if started && gap then ['-'] else []).filter (· != '-') = [] := by
        split <;> rfl
      have hkept : (c.toLower != '-') = true := bne_iff_ne.mpr (toLower_ne_dash hc)
      rw [slugChars_cons_of_pos hc, List.filter_append, hdash, List.nil_append,
        List.filter_cons_of_pos (p := (· != '-')) hkept, ih, smallAlphanums_cons_of_pos hc]
    · rw [slugChars_cons_of_neg hc, ih, smallAlphanums_cons_of_neg hc]

theorem slugChars_eq_nil_iff (gap : Bool) :
    slugChars false gap cs = [] ↔ ∀ c ∈ cs, c.isAlphanum = false := by
  induction cs generalizing gap with
  | nil => exact iff_of_true rfl (List.forall_mem_nil _)
  | cons c rest ih =>
    rw [List.forall_mem_cons]
    by_cases hc : c.isAlphanum = true
    · rw [slugChars_cons_of_pos hc]
      exact iff_of_false (List.cons_ne_nil _ _) fun h => Bool.false_ne_true (h.1.symm.trans hc)
    · rw [slugChars_cons_of_neg hc, ih]
      exact (and_iff_right ((Bool.not_eq_true _).mp hc)).symm

/-- What is written for a text is written for itself. -/
theorem slugChars_slugChars (started gap : Bool) (cs : List Char) :
    slugChars started false (slugChars started gap cs) = slugChars started gap cs := by
  induction cs generalizing started gap with
  | nil => rfl
  | cons c rest ih =>
    by_cases hc : c.isAlphanum = true
    · have hsmall := isAlphanum_toLower hc
      have hsame : c.toLower.toLower = c.toLower := Char.toLower_toLower_eq_toLower c
      rw [slugChars_cons_of_pos hc]
      split
      · next hdash =>
        -- The dash is read as the gap before the letter, and is written again.
        obtain ⟨rfl, rfl⟩ := Bool.and_eq_true_iff.mp hdash
        rw [List.singleton_append, slugChars_cons_of_neg (by decide), slugChars_cons_of_pos hsmall, hsame,
          ih true false]
        rfl
      · rw [List.nil_append, slugChars_cons_of_pos hsmall, hsame, ih true false, Bool.and_false]
        rfl
    · rw [slugChars_cons_of_neg hc]
      exact ih started true

/-- Before a letter or digit stands what is written for the text before it, and perhaps a dash. -/
theorem exists_slugChars_append_cons (hc : c.isAlphanum = true) (started gap : Bool) (before : List Char) :
    ∃ dash, (dash = [] ∨ dash = ['-']) ∧ ∀ rest, slugChars started gap (before ++ c :: rest) =
      slugChars started gap before ++ dash ++ c.toLower :: slugChars true false rest := by
  induction before generalizing started gap with
  | nil =>
    refine ⟨if started && gap then ['-'] else [], ?_, fun rest => slugChars_cons_of_pos hc started gap rest⟩
    split
    · exact .inr rfl
    · exact .inl rfl
  | cons b before ih =>
    by_cases hb : b.isAlphanum = true
    · obtain ⟨dash, hdash, h⟩ := ih true false
      refine ⟨dash, hdash, fun rest => ?_⟩
      rw [List.cons_append, slugChars_cons_of_pos hb, h, slugChars_cons_of_pos hb]
      simp only [List.append_assoc, List.cons_append]
    · obtain ⟨dash, hdash, h⟩ := ih started true
      refine ⟨dash, hdash, fun rest => ?_⟩
      rw [List.cons_append, slugChars_cons_of_neg hb, h, slugChars_cons_of_neg hb]

/-- Behind a letter or digit the next one stands at once, or behind one dash for all that parts them. -/
theorem slugChars_gap {gap : List Char} (hgap : ∀ x ∈ gap, x.isAlphanum = false) (hd : d.isAlphanum = true)
    (rest : List Char) :
    slugChars true false (gap ++ d :: rest) =
      (if gap = [] then [] else ['-']) ++ d.toLower :: slugChars true false rest := by
  have hskip (gap : List Char) (hgap : ∀ x ∈ gap, x.isAlphanum = false) :
      slugChars true true (gap ++ d :: rest) = '-' :: d.toLower :: slugChars true false rest := by
    induction gap with
    | nil => exact slugChars_cons_of_pos hd true true rest
    | cons x gap ih =>
      obtain ⟨hx, hgap⟩ := List.forall_mem_cons.mp hgap
      rw [List.cons_append, slugChars_cons_of_neg (Bool.eq_false_iff.mp hx), ih hgap]
  cases gap with
  | nil => exact slugChars_cons_of_pos hd true false rest
  | cons x gap =>
    obtain ⟨hx, hgap⟩ := List.forall_mem_cons.mp hgap
    rw [List.cons_append, slugChars_cons_of_neg (Bool.eq_false_iff.mp hx), hskip gap hgap,
      if_neg (List.cons_ne_nil x gap)]
    rfl

theorem length_slugChars_le (started gap : Bool) (cs : List Char) :
    (slugChars started gap cs).length ≤ cs.length + if started && gap then 1 else 0 := by
  induction cs generalizing started gap with
  | nil => exact Nat.zero_le _
  | cons c rest ih =>
    by_cases hc : c.isAlphanum = true
    · have hrest := ih true false
      rw [slugChars_cons_of_pos hc]
      split
      · simp only [List.length_append, List.length_cons, List.length_nil, Bool.and_false,
          Bool.false_eq_true, if_false] at hrest ⊢
        omega
      · simp only [List.nil_append, List.length_cons, Bool.and_false, Bool.false_eq_true, if_false] at hrest ⊢
        omega
    · have hrest := ih started true
      rw [slugChars_cons_of_neg hc, List.length_cons]
      split at hrest <;> omega

/-- The characters of a slug besides the dash. -/
def slugAlphabet : List Char := "abcdefghijklmnopqrstuvwxyz0123456789".toList

/-- At least one letter or digit. -/
def slugWord : RegularExpression Char := oneOf slugAlphabet * (oneOf slugAlphabet).star

/-- Words with single dashes before them. -/
def slugWords : RegularExpression Char := (.char '-' * slugWord).star

/-- Words with single dashes between them: `[a-z0-9]+(-[a-z0-9]+)*`. -/
def slugForm : RegularExpression Char := slugWord * slugWords

theorem append_mem_star {r : RegularExpression Char} {a b : List Char} (ha : a ∈ r.matches')
    (hb : b ∈ r.star.matches') : a ++ b ∈ r.star.matches' := by
  rw [RegularExpression.matches'_star] at hb ⊢
  rw [← Language.one_add_self_mul_kstar_eq_kstar, Language.mem_add]
  exact .inr (Language.append_mem_mul ha hb)

theorem mem_slugAlphabet (hc : c.isAlphanum = true) : c.toLower ∈ slugAlphabet := by
  have hall : (List.range 128).all (fun n =>
      !((Char.ofNat n).isDigit || (Char.ofNat n).isLower) || slugAlphabet.contains (Char.ofNat n)) = true := by
    decide +kernel
  have hsmall := isDigit_or_isLower_toLower hc
  have hlow : c.toLower.toNat < 128 := by
    simp only [Char.isDigit, Char.isLower, Bool.and_eq_true, decide_eq_true_eq, ge_iff_le,
      UInt32.le_iff_toNat_le, Char.reduceVal, UInt32.reduceToNat] at hsmall
    change c.toLower.val.toNat < 128
    omega
  have hmem := List.all_eq_true.mp hall c.toLower.toNat (List.mem_range.mpr hlow)
  rw [Char.ofNat_toNat, Bool.or_eq_true_iff.mpr hsmall] at hmem
  simpa using hmem

/-- Behind a letter or digit a slug goes on with more of them and then with words behind dashes, and behind a
gap with such words at once. -/
theorem slugChars_true_mem (cs : List Char) :
    slugChars true true cs ∈ slugWords.matches' ∧
      slugChars true false cs ∈ ((oneOf slugAlphabet).star * slugWords).matches' := by
  induction cs with
  | nil =>
    have hnone : [] ∈ slugWords.matches' := Language.nil_mem_kstar _
    exact ⟨hnone, Language.append_mem_mul (Language.nil_mem_kstar _) hnone⟩
  | cons c rest ih =>
    obtain ⟨hgap, hword⟩ := ih
    by_cases hc : c.isAlphanum = true
    · have hchar := PlainDecimal.mem_oneOf (mem_slugAlphabet hc)
      obtain ⟨more, hmore, words, hwords, hrest⟩ := Language.mem_mul.mp hword
      have hdashed : slugChars true true (c :: rest) = '-' :: c.toLower :: slugChars true false rest :=
        slugChars_cons_of_pos hc true true rest
      have hjoined : slugChars true false (c :: rest) = c.toLower :: slugChars true false rest :=
        slugChars_cons_of_pos hc true false rest
      rw [hdashed, hjoined, ← hrest]
      constructor
      · have hbegun : '-' :: c.toLower :: more ∈ (RegularExpression.char '-' * slugWord).matches' :=
          Language.append_mem_mul (a := ['-']) rfl (Language.append_mem_mul hchar hmore)
        exact append_mem_star hbegun hwords
      · exact Language.append_mem_mul (append_mem_star hchar hmore) hwords
    · rw [slugChars_cons_of_neg hc, slugChars_cons_of_neg hc]
      exact ⟨hgap, Language.append_mem_mul (Language.nil_mem_kstar _) hgap⟩

/-- What is written for a text with a letter or digit is a slug. -/
theorem slugChars_false_mem (gap : Bool) (h : ∃ c ∈ cs, c.isAlphanum = true) :
    slugChars false gap cs ∈ slugForm.matches' := by
  induction cs generalizing gap with
  | nil => simp at h
  | cons c rest ih =>
    by_cases hc : c.isAlphanum = true
    · have hchar := PlainDecimal.mem_oneOf (mem_slugAlphabet hc)
      obtain ⟨more, hmore, words, hwords, hrest⟩ := Language.mem_mul.mp (slugChars_true_mem rest).2
      have hfirst : slugChars false gap (c :: rest) = c.toLower :: slugChars true false rest :=
        slugChars_cons_of_pos hc false gap rest
      rw [hfirst, ← hrest]
      exact Language.append_mem_mul (Language.append_mem_mul hchar hmore) hwords
    · rw [slugChars_cons_of_neg hc]
      refine ih true ?_
      simpa [hc] using h

theorem slugOf_of_none {name : String} (h : ∀ c ∈ name.toList, c.isAlphanum = false) :
    slugOf name = "mcp-server" := by
  rw [slugOf, (slugChars_eq_nil_iff false).mpr h]

theorem slugChars_ne_nil (h : ∃ c ∈ cs, c.isAlphanum = true) : slugChars false false cs ≠ [] := by
  obtain ⟨c, hc, halphanum⟩ := h
  intro hnil
  exact Bool.false_ne_true (((slugChars_eq_nil_iff false).mp hnil c hc).symm.trans halphanum)

theorem toList_slugOf {name : String} (h : slugChars false false name.toList ≠ []) :
    (slugOf name).toList = slugChars false false name.toList := by
  unfold slugOf
  split
  · next hnil => exact absurd hnil h
  · rw [String.toList_ofList]

theorem none_or_exists_isAlphanum (cs : List Char) :
    (∀ c ∈ cs, c.isAlphanum = false) ∨ ∃ c ∈ cs, c.isAlphanum = true := by
  by_cases h : ∃ c ∈ cs, c.isAlphanum = true
  · exact .inr h
  · exact .inl fun c hc => Bool.eq_false_iff.mpr fun halphanum => h ⟨c, hc, halphanum⟩

theorem slugOf_mem_slugForm (name : String) : (slugOf name).toList ∈ slugForm.matches' := by
  rcases none_or_exists_isAlphanum name.toList with h | h
  · rw [slugOf_of_none h, ← RegularExpression.rmatch_iff_matches']
    decide +kernel
  · rw [toList_slugOf (slugChars_ne_nil h)]
    exact slugChars_false_mem false h

theorem slugOf_slugOf (name : String) : slugOf (slugOf name) = slugOf name := by
  rcases none_or_exists_isAlphanum name.toList with h | h
  · rw [slugOf_of_none h]
    decide
  · have hname := toList_slugOf (slugChars_ne_nil h)
    have hagain : slugChars false false (slugOf name).toList = (slugOf name).toList := by
      rw [hname, slugChars_slugChars]
    have hne : slugChars false false (slugOf name).toList ≠ [] := by
      rw [hagain, hname]
      exact slugChars_ne_nil h
    exact String.toList_inj.mp ((toList_slugOf hne).trans hagain)

theorem length_slugOf_le (name : String) : (slugOf name).length ≤ max name.length 10 := by
  rcases none_or_exists_isAlphanum name.toList with h | h
  · rw [slugOf_of_none h]
    exact le_max_right _ _
  · have hlength := length_slugChars_le false false name.toList
    rw [← String.length_toList, toList_slugOf (slugChars_ne_nil h), ← String.length_toList]
    exact le_max_of_le_left hlength

/-- A slug is the name of a file, and no step to another directory. -/
theorem isName_slugOf (name : String) : Path.IsName (slugOf name) := by
  rcases none_or_exists_isAlphanum name.toList with h | h
  · rw [slugOf_of_none h]
    decide
  · have hname := toList_slugOf (slugChars_ne_nil h)
    have hchars : ∀ c ∈ (slugOf name).toList, c = '-' ∨ c.isAlphanum = true := by
      intro c hc
      by_cases hdash : c = '-'
      · exact .inl hdash
      · have hkept : c ∈ (slugOf name).toList.filter (· != '-') :=
          List.mem_filter.mpr ⟨hc, bne_iff_ne.mpr hdash⟩
        rw [hname, filter_slugChars] at hkept
        obtain ⟨d, hd, rfl⟩ := List.mem_map.mp hkept
        exact .inr (isAlphanum_toLower (List.mem_filter.mp hd).2)
    -- So a slug has neither the dots of a step nor the slash of a path.
    have hmark (d : Char) (hd : (d == '-' || d.isAlphanum) = false) : d ∉ (slugOf name).toList := by
      intro hmem
      have hallowed := hchars d hmem
      rw [← beq_iff_eq, ← Bool.or_eq_true, hd] at hallowed
      exact Bool.false_ne_true hallowed
    have hdot := hmark '.' (by decide)
    refine ⟨?_, hmark '/' (by decide), ?_, ?_⟩
    · intro hempty
      rw [hempty] at hname
      exact slugChars_ne_nil h hname.symm
    · intro hstep
      exact hdot (hstep ▸ by decide)
    · intro hstep
      exact hdot (hstep ▸ by decide)

/-- The slug of a name is safe to use as a name elsewhere. It has the form of words with single dashes between
them, so it leads one step down from a directory, it is not longer than the name or the slug of a name without
letters, and it is its own slug. If the name has a letter or digit of ASCII, the slug without its dashes is
the letters and digits of the name in small letters, and between any two that follow each other a dash
stands exactly if something else stood between them. -/
theorem slugOf_safe (name : String) :
    (slugOf name).toList ∈ slugForm.matches' ∧
      Path.IsName (slugOf name) ∧
      (slugOf name).length ≤ max name.length 10 ∧
      slugOf (slugOf name) = slugOf name ∧
      ((∀ c ∈ name.toList, c.isAlphanum = false) → slugOf name = "mcp-server") ∧
      ((∃ c ∈ name.toList, c.isAlphanum = true) →
        (slugOf name).toList.filter (· != '-') = smallAlphanums name.toList ∧
        ∀ before c gap d after, name.toList = before ++ c :: (gap ++ d :: after) →
          c.isAlphanum = true → (∀ x ∈ gap, x.isAlphanum = false) → d.isAlphanum = true →
          ∃ left right,
            (slugOf name).toList =
              left ++ c.toLower :: ((if gap = [] then [] else ['-']) ++ d.toLower :: right) ∧
            left.filter (· != '-') = smallAlphanums before ∧
            right.filter (· != '-') = smallAlphanums after) := by
  refine ⟨slugOf_mem_slugForm name, isName_slugOf name, length_slugOf_le name, slugOf_slugOf name,
    slugOf_of_none, fun h => ?_⟩
  have hslug := toList_slugOf (slugChars_ne_nil h)
  refine ⟨by rw [hslug, filter_slugChars], ?_⟩
  intro before c gap d after hname hc hgap hd
  obtain ⟨dash, hdash, hbefore⟩ := exists_slugChars_append_cons hc false false before
  refine ⟨slugChars false false before ++ dash, slugChars true false after, ?_, ?_, filter_slugChars _ _ _⟩
  · rw [hslug, hname, hbefore, slugChars_gap hgap hd]
  · have hnone : dash.filter (· != '-') = [] := by
      rcases hdash with rfl | rfl <;> rfl
    rw [List.filter_append, filter_slugChars, hnone, List.append_nil]

/-- Marks around a name leave no dash, and those between two words leave one. -/
theorem slugOf_safe_padded :
    let name := " Git / Hub!"
    slugOf name = "git-hub" ∧ (∃ c ∈ name.toList, c.isAlphanum = true) ∧
      ∃ left right, (slugOf name).toList = left ++ 't' :: (['-'] ++ 'h' :: right) ∧
        left.filter (· != '-') = ['g', 'i'] ∧ right.filter (· != '-') = ['u', 'b'] := by
  intro name
  have hletter : ∃ c ∈ name.toList, c.isAlphanum = true := ⟨'G', by decide, by decide⟩
  have hname : name.toList = [' ', 'G', 'i'] ++ 't' :: ([' ', '/', ' '] ++ 'H' :: ['u', 'b', '!']) := by
    decide
  obtain ⟨-, -, -, -, -, hletters⟩ := slugOf_safe name
  obtain ⟨left, right, hslug, hleft, hright⟩ :=
    (hletters hletter).2 _ 't' _ 'H' _ hname (by decide) (List.forall_iff_forall_mem.mp (by decide)) (by decide)
  exact ⟨by decide, hletter, left, right, hslug, hleft, hright⟩

end Scaffold.Text
