import Scaffold.Proofs.Text.SmallLetters

namespace Scaffold.Text

namespace CaseRun

/-- The small letter of the first capital of a run. -/
def lowest (r : CaseRun) : Nat := ((r.first : Int) + r.shift).toNat

/-- The small letter of the last capital of a run. -/
def highest (r : CaseRun) : Nat := ((r.last : Int) + r.shift).toNat

theorem lowest_le {r : CaseRun} {n : Nat} (h : r.covers n = true) :
    r.lowest ≤ ((n : Int) + r.shift).toNat := by
  simp only [covers, Bool.and_eq_true, decide_eq_true_eq] at h
  simp only [lowest]
  omega

theorem le_highest {r : CaseRun} {n : Nat} (h : r.covers n = true) :
    ((n : Int) + r.shift).toNat ≤ r.highest := by
  simp only [covers, Bool.and_eq_true, decide_eq_true_eq] at h
  simp only [highest]
  omega

/-- Whether two runs take turns: the small letters of the one are every second code point, and the capitals of
the other are those between. -/
def takesTurns (r other : CaseRun) : Bool :=
  other.step == 2 && (r.step == 2 || r.first == r.last) && (r.lowest + other.first) % 2 == 1

/-- Whether no small letter of a run is a capital of one of the runs, which are looked through as far as
`lowerCode` does. -/
def isApart (r : CaseRun) : List CaseRun → Bool
  | [] => true
  | other :: rest =>
    Nat.blt r.highest other.first || ((Nat.blt other.last r.lowest || r.takesTurns other) && r.isApart rest)

theorem not_covers_of_takesTurns {r other : CaseRun} (h : r.takesTurns other = true) (hpos : 0 < r.lowest)
    {n : Nat} (hn : r.covers n = true) : other.covers ((n : Int) + r.shift).toNat = false := by
  simp only [takesTurns, lowest, Bool.and_eq_true, Bool.or_eq_true, beq_iff_eq] at h
  simp only [lowest] at hpos
  simp only [covers, Bool.and_eq_true, decide_eq_true_eq, beq_iff_eq] at hn
  obtain ⟨⟨hother, hr⟩, hodd⟩ := h
  rw [← Bool.not_eq_true]
  simp only [covers, hother, Bool.and_eq_true, decide_eq_true_eq, beq_iff_eq]
  rcases hr with hr | hr
  · rw [hr] at hn
    omega
  · omega

end CaseRun

/-- The small letters of a run that lies apart have no small letters. -/
theorem lowerCode_shift {r : CaseRun} {runs : List CaseRun} (h : r.isApart runs = true)
    (hpos : 0 < r.lowest) {n : Nat} (hn : r.covers n = true) :
    lowerCode runs ((n : Int) + r.shift).toNat = ((n : Int) + r.shift).toNat := by
  have hlowest := CaseRun.lowest_le hn
  have hhighest := CaseRun.le_highest hn
  induction runs with
  | nil => rfl
  | cons other rest ih =>
    simp only [CaseRun.isApart, Bool.or_eq_true, Bool.and_eq_true, Nat.blt_eq] at h
    unfold lowerCode
    split
    · rfl
    · next hfirst =>
      -- The small letters do not end below this run, so they begin above it or take turns with it.
      obtain hbelow | ⟨hother, hrest⟩ := h
      · omega
      · have hcovers : other.covers ((n : Int) + r.shift).toNat = false := by
          rcases hother with habove | hturns
          · simp only [CaseRun.covers, Bool.and_eq_false_iff, decide_eq_false_iff_not]
            omega
          · exact CaseRun.not_covers_of_takesTurns hturns hpos hn
        rw [hcovers, if_neg Bool.false_ne_true, ih hrest]

theorem lowerCode_cases (runs : List CaseRun) (n : Nat) :
    lowerCode runs n = n ∨
      ∃ r ∈ runs, r.covers n = true ∧ lowerCode runs n = ((n : Int) + r.shift).toNat := by
  induction runs with
  | nil => exact .inl rfl
  | cons r rest ih =>
    unfold lowerCode
    split
    · exact .inl rfl
    · split
      · next hcovers => exact .inr ⟨r, List.mem_cons_self, hcovers, rfl⟩
      · rcases ih with h | ⟨q, hq, hcovers, h⟩
        · exact .inl h
        · exact .inr ⟨q, List.mem_cons_of_mem r hq, hcovers, h⟩

/-- A small letter has no small letter. -/
theorem lowerCode_lowerCode (n : Nat) :
    lowerCode lowercaseRuns (lowerCode lowercaseRuns n) = lowerCode lowercaseRuns n := by
  -- The runs are compared with each other, not the code points that they cover.
  have hall : (lowercaseRuns.all fun r => Nat.blt 0 r.lowest && r.isApart lowercaseRuns) = true := by
    decide +kernel
  rcases lowerCode_cases lowercaseRuns n with h | ⟨r, hr, hcovers, h⟩
  · rw [h, h]
  · have hrun := List.all_eq_true.mp hall r hr
    rw [Bool.and_eq_true, Nat.blt_eq] at hrun
    rw [h, lowerCode_shift hrun.2 hrun.1 hcovers]

/-- Membership does not change between two code points without a change between them. -/
theorem CharSet.covers_eq_of_forall {bounds : List Nat} {low high n : Nat}
    (h : ∀ b ∈ bounds, b ≤ low ∨ high < b) (hlow : low ≤ n) (hhigh : n ≤ high) :
    covers bounds n = covers bounds low := by
  induction bounds with
  | nil => rfl
  | cons b rest ih =>
    obtain ⟨hb, hrest⟩ := List.forall_mem_cons.mp h
    rcases hb with hb | hb
    · rw [covers_of_le hb, covers_of_le (Nat.le_trans hb hlow), ih hrest]
    · rw [covers_of_lt (Nat.lt_of_le_of_lt hhigh hb),
        covers_of_lt (Nat.lt_of_le_of_lt (Nat.le_trans hlow hhigh) hb)]

/-- Whether the range of the small letters of a run lies outside a set. -/
def CaseRun.landsOutside (s : CharSet) (r : CaseRun) : Bool :=
  !CharSet.covers s.bounds r.lowest && s.bounds.all fun b => Nat.ble b r.lowest || Nat.blt r.highest b

/-- No small letter comes into a set that the small letters of all runs lie outside of. -/
theorem not_covers_lowerCode {s : CharSet} (hs : (lowercaseRuns.all (CaseRun.landsOutside s)) = true)
    {n : Nat} (h : CharSet.covers s.bounds n = false) :
    CharSet.covers s.bounds (lowerCode lowercaseRuns n) = false := by
  rcases lowerCode_cases lowercaseRuns n with hn | ⟨r, hr, hcovers, hn⟩
  · rw [hn, h]
  · have hrun := List.all_eq_true.mp hs r hr
    simp only [CaseRun.landsOutside, Bool.and_eq_true, Bool.not_eq_true', List.all_eq_true,
      Bool.or_eq_true, Nat.ble_eq, Nat.blt_eq] at hrun
    rw [hn, CharSet.covers_eq_of_forall hrun.2 (CaseRun.lowest_le hcovers) (CaseRun.le_highest hcovers),
      hrun.1]

/-- A character that is its own small form wherever it stands. -/
structure IsSmall (c : Char) : Prop where
  ne_sigma : c ≠ 'Σ'
  lowerChar_eq : lowerChar c = [c]

theorem isSmall_of_mem_lowerChar {c d : Char} (h : d ∈ lowerChar c) : IsSmall d := by
  rcases mem_lowerChar h with rfl | rfl | ⟨hdotted, hcode⟩ | rfl
  · exact ⟨by decide, by decide⟩
  · exact ⟨by decide, by decide⟩
  · have hself : lowerCode lowercaseRuns d.toNat = d.toNat := by
      rw [hcode, lowerCode_lowerCode]
    -- The dotted capital is no small letter of another character.
    have hcapital : CharSet.covers [0x130, 0x131] c.toNat = false := by
      rw [← Bool.not_eq_true]
      intro hcovers
      apply hdotted
      rw [← Char.toNat_inj]
      simp only [CharSet.covers] at hcovers
      change c.toNat = 0x130
      grind
    have hother : d ≠ '\u0130' := by
      rintro rfl
      have houtside := not_covers_lowerCode (s := ⟨[0x130, 0x131]⟩) (by decide +kernel) hcapital
      rw [← hcode] at houtside
      exact absurd houtside (by decide)
    refine ⟨?_, ?_⟩
    · rintro rfl
      exact absurd hself (by decide)
    · rw [lowerChar, if_neg hother, hself, Char.ofNat_toNat]
  · exact ⟨by decide, by decide⟩

/-- Small letters stay as they are, whatever stands before them. -/
theorem lowerFrom_of_isSmall {cs : List Char} (h : ∀ c ∈ cs, IsSmall c) (afterCased : Bool) :
    lowerFrom afterCased cs = cs := by
  induction cs generalizing afterCased with
  | nil => rfl
  | cons c rest ih =>
    obtain ⟨hc, hrest⟩ := List.forall_mem_cons.mp h
    simp only [lowerFrom]
    rw [if_neg hc.ne_sigma, hc.lowerChar_eq, ih hrest, List.singleton_append]

theorem not_isBlank_of_mem_lowerChar {c d : Char} (hc : isBlank c = false) (h : d ∈ lowerChar c) :
    isBlank d = false := by
  rcases mem_lowerChar h with rfl | rfl | ⟨-, hcode⟩ | rfl
  · rfl
  · rfl
  · rw [isBlank, CharSet.contains, hcode]
    exact not_covers_lowerCode (by decide +kernel) hc
  · rfl

theorem not_isBlank_of_mem_underscoreBlanks {cs : List Char} {afterBlank : Bool} {d : Char}
    (h : d ∈ underscoreBlanks afterBlank cs) : isBlank d = false := by
  induction cs generalizing afterBlank with
  | nil => cases h
  | cons c rest ih =>
    unfold underscoreBlanks at h
    split at h
    · split at h
      · exact ih h
      · rcases List.mem_cons.mp h with rfl | h
        · rfl
        · exact ih h
    · next hc =>
      rcases List.mem_cons.mp h with rfl | h
      · exact (Bool.not_eq_true _).mp hc
      · exact ih h

/-- Where there are no blanks, no underscores are set. -/
theorem underscoreBlanks_of_not_isBlank {cs : List Char} (h : ∀ c ∈ cs, isBlank c = false)
    (afterBlank : Bool) : underscoreBlanks afterBlank cs = cs := by
  induction cs generalizing afterBlank with
  | nil => rfl
  | cons c rest ih =>
    obtain ⟨hc, hrest⟩ := List.forall_mem_cons.mp h
    rw [underscoreBlanks, hc, if_neg Bool.false_ne_true, ih hrest]

/-- A run of blanks becomes one underscore, or part of the one before it. -/
theorem underscoreBlanks_run {run : List Char} (hne : run ≠ []) (hrun : ∀ c ∈ run, isBlank c = true)
    (afterBlank : Bool) (rest : List Char) :
    underscoreBlanks afterBlank (run ++ rest) =
      (if afterBlank then [] else ['_']) ++ underscoreBlanks true rest := by
  induction run generalizing afterBlank with
  | nil => exact absurd rfl hne
  | cons c run ih =>
    obtain ⟨hc, hrun⟩ := List.forall_mem_cons.mp hrun
    -- Behind the first blank no blank of the run sets an underscore.
    have hbehind : underscoreBlanks true (run ++ rest) = underscoreBlanks true rest := by
      cases run with
      | nil => rfl
      | cons d run => exact ih (List.cons_ne_nil d run) hrun true
    rw [List.cons_append, underscoreBlanks, if_pos hc]
    cases afterBlank with
    | false => exact congrArg (List.cons '_') hbehind
    | true => exact hbehind

/-- Two texts that differ in nothing but the blanks that their runs of blanks consist of, and how many of
them. -/
inductive SameButBlanks : List Char → List Char → Prop
  | nil : SameButBlanks [] []
  | char {c : Char} {a b : List Char} (hc : isBlank c = false) (h : SameButBlanks a b) :
    SameButBlanks (c :: a) (c :: b)
  | run {r s a b : List Char} (hr : r ≠ []) (hs : s ≠ []) (hrblank : ∀ c ∈ r, isBlank c = true)
    (hsblank : ∀ c ∈ s, isBlank c = true) (h : SameButBlanks a b) : SameButBlanks (r ++ a) (s ++ b)

theorem SameButBlanks.underscoreBlanks_eq {a b : List Char} (h : SameButBlanks a b) (afterBlank : Bool) :
    underscoreBlanks afterBlank a = underscoreBlanks afterBlank b := by
  induction h generalizing afterBlank with
  | nil => rfl
  | char hc _ ih => simp only [underscoreBlanks, hc, Bool.false_eq_true, if_false, ih false]
  | run hr hs hrblank hsblank _ ih =>
    rw [underscoreBlanks_run hr hrblank, underscoreBlanks_run hs hsblank, ih true]

theorem not_isBlank_of_mem_identifierOf {name : String} {c : Char} (h : c ∈ (identifierOf name).toList) :
    isBlank c = false := by
  rw [identifierOf, String.toList_ofList] at h
  have hblank (d : Char) (hd : d ∈ underscoreBlanks false name.toList) : isBlank d = false :=
    not_isBlank_of_mem_underscoreBlanks hd
  exact forall_mem_lowerFrom (P := fun d => isBlank d = false) rfl rfl
    (fun d hd _ he => not_isBlank_of_mem_lowerChar (hblank d hd) he) false c h

theorem isSmall_of_mem_identifierOf {name : String} {c : Char} (h : c ∈ (identifierOf name).toList) :
    IsSmall c := by
  rw [identifierOf, String.toList_ofList] at h
  exact forall_mem_lowerFrom ⟨by decide, by decide⟩ ⟨by decide, by decide⟩
    (fun _ _ _ hd => isSmall_of_mem_lowerChar hd) false c h

theorem identifierOf_identifierOf (name : String) : identifierOf (identifierOf name) = identifierOf name := by
  have hblanks : underscoreBlanks false (identifierOf name).toList = (identifierOf name).toList :=
    underscoreBlanks_of_not_isBlank (fun c hc => not_isBlank_of_mem_identifierOf hc) false
  have hsmall : lowerFrom false (identifierOf name).toList = (identifierOf name).toList :=
    lowerFrom_of_isSmall (fun c hc => isSmall_of_mem_identifierOf hc) false
  rw [identifierOf, hblanks, hsmall, String.ofList_toList]

/-- An identifier is a normal form of names: it is its own identifier, it holds neither a blank nor a capital
of ASCII, and names have the same one if they differ in nothing but the blanks between their words. -/
theorem identifierOf_normal (name : String) :
    identifierOf (identifierOf name) = identifierOf name ∧
      (∀ c ∈ (identifierOf name).toList, isBlank c = false ∧ c.isUpper = false) ∧
      ∀ other : String, SameButBlanks name.toList other.toList → identifierOf other = identifierOf name := by
  refine ⟨identifierOf_identifierOf name, fun c hc => ⟨not_isBlank_of_mem_identifierOf hc, ?_⟩, ?_⟩
  · have hcapital := isCapital_of_mem_identifierOf hc
    simp only [isCapital, Bool.and_eq_false_iff, decide_eq_false_iff_not] at hcapital
    have hupper : c.isUpper = decide (c.val ≥ 'A'.val ∧ c.val ≤ 'Z'.val) := rfl
    rw [hupper]
    simp only [decide_eq_false_iff_not, ge_iff_le, UInt32.le_iff_toNat_le, Char.reduceVal,
      UInt32.reduceToNat]
    rintro ⟨hlow, hhigh⟩
    rcases hcapital with hbelow | habove
    · exact hbelow hlow
    · exact habove hhigh
  · intro other h
    rw [identifierOf, identifierOf, h.underscoreBlanks_eq false]

/-- A name with a dotted capital, a capital sigma at the end of a word, and blanks of several kinds. -/
theorem identifierOf_normal_mixed :
    let name := "İΣ \tΑΣ\u00a0"
    let other := "İΣ\u2003ΑΣ\r\n"
    '_' ∈ (identifierOf name).toList ∧ SameButBlanks name.toList other.toList ∧
      identifierOf (identifierOf name) = identifierOf name ∧ isBlank '_' = false ∧
      identifierOf other = identifierOf name := by
  intro name other
  have hname : name.toList = 'İ' :: 'Σ' :: ([' ', '\t'] ++ 'Α' :: 'Σ' :: (['\u00a0'] ++ [])) := by decide
  have hother : other.toList = 'İ' :: 'Σ' :: (['\u2003'] ++ 'Α' :: 'Σ' :: (['\r', '\n'] ++ [])) := by decide
  have hsame : SameButBlanks name.toList other.toList := by
    have hmiddle : SameButBlanks ([' ', '\t'] ++ 'Α' :: 'Σ' :: (['\u00a0'] ++ []))
        (['\u2003'] ++ 'Α' :: 'Σ' :: (['\r', '\n'] ++ [])) := by
      have hend : SameButBlanks (['\u00a0'] ++ []) (['\r', '\n'] ++ []) :=
        .run (by decide) (by decide) (List.all_eq_true.mp (by decide)) (List.all_eq_true.mp (by decide)) .nil
      exact .run (by decide) (by decide) (List.all_eq_true.mp (by decide)) (List.all_eq_true.mp (by decide))
        (.char (by decide) (.char (by decide) hend))
    rw [hname, hother]
    exact .char (by decide) (.char (by decide) hmiddle)
  have hmem : '_' ∈ (identifierOf name).toList := by
    decide +kernel
  obtain ⟨hagain, hchars, hothers⟩ := identifierOf_normal name
  exact ⟨hmem, hsame, hagain, (hchars '_' hmem).1, hothers other hsame⟩

end Scaffold.Text
