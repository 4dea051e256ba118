import Scaffold.Text.Identifier

namespace Scaffold.Text

/-- Whether a code point is a capital letter of ASCII. -/
def isCapital (n : Nat) : Bool := 65 ≤ n && n ≤ 90

theorem isCapital_eq_false {n : Nat} (h : n < 65 ∨ 90 < n) : isCapital n = false := by
  simp only [isCapital, Bool.and_eq_false_iff, decide_eq_false_iff_not, Nat.not_le]
  exact h

/-- Whether the small letters of a run keep clear of the capitals of ASCII. -/
def CaseRun.landsClear (r : CaseRun) : Bool :=
  90 < (r.first : Int) + r.shift || (r.last : Int) + r.shift < 65

theorem CaseRun.isCapital_shift {r : CaseRun} (h : r.landsClear = true) {n : Nat}
    (hn : r.covers n = true) : isCapital ((n : Int) + r.shift).toNat = false := by
  simp only [CaseRun.landsClear, Bool.or_eq_true, decide_eq_true_eq] at h
  simp only [CaseRun.covers, Bool.and_eq_true, decide_eq_true_eq] at hn
  apply isCapital_eq_false
  omega

/-- A code point that is no capital does not become one. -/
theorem isCapital_lowerCode_of_clear {runs : List CaseRun}
    (h : ∀ r ∈ runs, r.landsClear = true) {n : Nat} (hn : isCapital n = false) :
    isCapital (lowerCode runs n) = false := by
  induction runs with
  | nil => exact hn
  | cons r rest ih =>
    obtain ⟨hr, hrest⟩ := List.forall_mem_cons.mp h
    unfold lowerCode
    split
    · exact hn
    · split
      · next hcovers => exact r.isCapital_shift hr hcovers
      · exact ih hrest

/-- The first run takes the capitals themselves away. -/
theorem isCapital_lowerCode (n : Nat) : isCapital (lowerCode lowercaseRuns n) = false := by
  have hclear : ∀ r ∈ lowercaseRuns, r.landsClear = true := List.all_eq_true.mp (by decide)
  by_cases hn : isCapital n = true
  · obtain ⟨rest, hruns⟩ : ∃ rest, lowercaseRuns = ⟨65, 90, 1, 32⟩ :: rest := ⟨_, rfl⟩
    simp only [isCapital, Bool.and_eq_true, decide_eq_true_eq] at hn
    have hcovers : CaseRun.covers ⟨65, 90, 1, 32⟩ n = true := by
      simp only [CaseRun.covers, Nat.mod_one, beq_self_eq_true, Bool.and_true, Bool.and_eq_true,
        decide_eq_true_eq]
      exact hn
    have hfirst : ¬ n < 65 := by omega
    rw [hruns, lowerCode, if_neg hfirst, if_pos hcovers]
    change isCapital ((n : Int) + 32).toNat = false
    apply isCapital_eq_false
    omega
  · exact isCapital_lowerCode_of_clear hclear (by simpa using hn)

/-- What is no code point of a character is made the null character. -/
theorem toNat_ofNat_or (n : Nat) : (Char.ofNat n).toNat = n ∨ Char.ofNat n = '\x00' := by
  by_cases h : n.isValidChar
  · have hchar : Char.ofNat n = Char.ofNatAux n h := dif_pos h
    exact .inl (by rw [hchar]; rfl)
  · exact .inr (dif_neg h)

/-- The small form of a character is a small letter with its mark, if it is the dotted capital, and otherwise
the character that its code point is mapped to. -/
theorem mem_lowerChar {c d : Char} (h : d ∈ lowerChar c) :
    d = 'i' ∨ d = '\u0307' ∨ c ≠ '\u0130' ∧ d.toNat = lowerCode lowercaseRuns c.toNat ∨ d = '\x00' := by
  unfold lowerChar at h
  split at h
  · simp only [List.mem_cons, List.not_mem_nil, or_false] at h
    exact h.elim .inl fun h => .inr (.inl h)
  · next hdotted =>
    rw [List.mem_singleton] at h
    rcases toNat_ofNat_or (lowerCode lowercaseRuns c.toNat) with hcode | hnull
    · exact .inr (.inr (.inl ⟨hdotted, h ▸ hcode⟩))
    · exact .inr (.inr (.inr (h.trans hnull)))

/-- What holds of the small forms of all characters, and of the small sigmas, holds throughout a text in small
letters. -/
theorem forall_mem_lowerFrom {P : Char → Prop} (hsigma : P 'σ') (hfinal : P 'ς') {cs : List Char}
    (hchar : ∀ c ∈ cs, ∀ d ∈ lowerChar c, P d) (afterCased : Bool) : ∀ d ∈ lowerFrom afterCased cs, P d := by
  induction cs generalizing afterCased with
  | nil => exact fun d hd => absurd hd List.not_mem_nil
  | cons c rest ih =>
    obtain ⟨hc, hrest⟩ := List.forall_mem_cons.mp hchar
    rw [lowerFrom]
    refine List.forall_mem_append.mpr ⟨?_, ih hrest _⟩
    split
    · refine List.forall_mem_singleton.mpr ?_
      split
      · exact hfinal
      · exact hsigma
    · exact hc

theorem isCapital_of_mem_lowerChar {c d : Char} (h : d ∈ lowerChar c) :
    isCapital d.toNat = false := by
  rcases mem_lowerChar h with rfl | rfl | ⟨-, hcode⟩ | rfl
  · rfl
  · rfl
  · rw [hcode, isCapital_lowerCode]
  · rfl

/-- An identifier is written without the capitals of ASCII. -/
theorem isCapital_of_mem_identifierOf {name : String} {c : Char}
    (h : c ∈ (identifierOf name).toList) : isCapital c.toNat = false := by
  rw [identifierOf, String.toList_ofList] at h
  exact forall_mem_lowerFrom (P := fun d => isCapital d.toNat = false) rfl rfl
    (fun _ _ _ hd => isCapital_of_mem_lowerChar hd) false c h

/-- A text with a capital is no identifier of any name. -/
theorem identifierOf_ne {word : String} (h : (word.toList.any fun c => isCapital c.toNat) = true)
    (name : String) : identifierOf name ≠ word := by
  rintro rfl
  obtain ⟨c, hc, hcapital⟩ := List.any_eq_true.mp h
  rw [isCapital_of_mem_identifierOf hc] at hcapital
  cases hcapital

end Scaffold.Text
