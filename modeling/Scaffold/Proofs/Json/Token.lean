import Mathlib.Data.List.TakeWhile
import Scaffold.Json.Printer
import Scaffold.Json.Token
import Scaffold.Proofs.Number.Numeral

namespace Scaffold.Json

theorem readChars_escape {e c : Char} (hu : e ≠ 'u') (h : escapedChar? e = some c) (tail : Input) :
    readChars ('\\' :: e :: tail) = consChar c (readChars tail) := by
  rw [readChars.eq_6 _ _ (fun _ _ _ _ _ he => absurd he hu) hu, h]

theorem readChars_hexEscape {n : Nat} (h : n < 0x20) (tail : Input) :
    readChars (Text.hexEscape n ++ tail) = consChar (Char.ofNat n) (readChars tail) := by
  have hunit : ∀ n < 0x20, hexUnit? (Nat.digitChar (n / 0x1000 % 16))
      (Nat.digitChar (n / 0x100 % 16)) (Nat.digitChar (n / 0x10 % 16)) (Nat.digitChar (n % 16)) =
        some n ∧ isLowSurrogate n = false ∧ isHighSurrogate n = false := by decide
  obtain ⟨hvalue, hlow, hhigh⟩ := hunit n h
  simp only [Text.hexEscape, List.cons_append, List.nil_append, readChars, hvalue, hlow, hhigh,
    Bool.false_eq_true, if_false]

theorem readChars_plain {c : Char} (hquote : c ≠ '"') (hslash : c ≠ '\\') (hlow : ¬c.toNat < 0x20)
    (tail : Input) : readChars (c :: tail) = consChar c (readChars tail) := by
  rw [readChars.eq_7 c tail hquote (fun _ _ _ _ _ h => absurd h hslash) (fun _ h => absurd h hslash)
    (fun h => absurd h hslash) (fun _ _ h => absurd h hslash), if_neg hlow]

/-- A character is read back from what it is written as. -/
theorem readChars_jsonChar (c : Char) (tail : Input) :
    readChars (Text.jsonChar c ++ tail) = consChar c (readChars tail) := by
  unfold Text.jsonChar
  -- The characters with a letter for their escape come first.
  iterate 7
    split
    · next h =>
      subst h
      exact readChars_escape (by decide) rfl tail
  split
  · next hlow =>
    rw [readChars_hexEscape hlow, Char.ofNat_toNat]
  · next hquote hslash _ _ _ _ _ hlow => exact readChars_plain hquote hslash hlow tail

theorem readChars_flatMap (cs : List Char) (rest : Input) :
    readChars (cs.flatMap Text.jsonChar ++ '"' :: rest) = .ok (cs, rest) := by
  induction cs with
  | nil => simp only [List.flatMap_nil, List.nil_append, readChars]
  | cons c cs ih => rw [List.flatMap_cons, List.append_assoc, readChars_jsonChar, ih, consChar]

/-- A string is its opening quote and what is read back as the string. -/
theorem exists_toList_jsonQuote (s : String) :
    ∃ cs, (Text.jsonQuote s).toList = '"' :: cs ∧
      ∀ rest, readString (cs ++ rest) = .ok (s, rest) := by
  refine ⟨s.toList.flatMap Text.jsonChar ++ ['"'], ?_, fun rest => ?_⟩
  · rw [Text.jsonQuote, Text.quoteWith, String.toList_ofList]
  · rw [List.append_assoc, List.singleton_append, readString, readChars_flatMap]
    simp only [bind, Except.bind, pure, Except.pure, String.ofList_toList]

/-- The characters that end an item: the marks behind it and blanks. -/
def itemEnds : List Char := [',', ']', '\x7d', ' ', '\n', '\t', '\r']

/-- What may stand behind a value: nothing, or something that begins with the end of an item. -/
def Delimited (rest : Input) : Prop := ∀ c ∈ rest.head?, c ∈ itemEnds

theorem delimited_nil : Delimited [] := fun _ hc => by cases hc

theorem delimited_cons {c : Char} (h : c ∈ itemEnds) (rest : Input) : Delimited (c :: rest) := by
  intro d hd
  rwa [← Option.some.inj hd]

theorem Delimited.ne {rest : Input} (h : Delimited rest) {c : Char} (hc : c ∉ itemEnds)
    (tail : Input) : rest ≠ c :: tail := by
  rintro rfl
  exact hc (h c rfl)

theorem Delimited.takeWhile_isDigit {rest : Input} (h : Delimited rest) :
    rest.takeWhile Char.isDigit = [] := by
  cases rest with
  | nil => rfl
  | cons c rest =>
    have hall : (itemEnds.all fun c => !c.isDigit) = true := by decide
    have hc := List.all_eq_true.mp hall c (h c rfl)
    rw [List.takeWhile_cons_of_neg (by simpa using hc)]

/-- Digits are taken as far as they reach. -/
theorem takeWhile_digits {ds tail : List Char} (hds : ∀ c ∈ ds, c.isDigit = true)
    (ht : tail.takeWhile Char.isDigit = []) :
    (ds ++ tail).takeWhile Char.isDigit = ds ∧ (ds ++ tail).dropWhile Char.isDigit = tail := by
  rw [List.takeWhile_append_of_pos hds, List.dropWhile_append_of_pos hds, ht, List.append_nil,
    Numeral.dropWhile_eq_of_takeWhile_eq_nil ht]
  exact ⟨rfl, rfl⟩

theorem le_foldl_digits (n : Nat) (ds : List Char) :
    n ≤ ds.foldl (fun n c => 10 * n + (c.toNat - 48)) n := by
  induction ds generalizing n with
  | nil => exact Nat.le_refl n
  | cons d ds ih =>
    rw [List.foldl_cons]
    exact Nat.le_trans (by omega) (ih _)

/-- Digits whose number fits into 64 bits are all taken. -/
theorem absorb_eq {n : Nat} {ds : List Char}
    (h : ds.foldl (fun n c => 10 * n + (c.toNat - 48)) n < 2 ^ 64) (k : Nat) :
    absorb n k ds = (ds.foldl (fun n c => 10 * n + (c.toNat - 48)) n, k + ds.length) := by
  induction ds generalizing n k with
  | nil => rfl
  | cons d ds ih =>
    rw [List.foldl_cons] at h ⊢
    have hnext : 10 * n + (d.toNat - 48) < 2 ^ 64 := Nat.lt_of_le_of_lt (le_foldl_digits _ ds) h
    rw [absorb]
    simp only [hnext, if_true]
    rw [ih h, List.length_cons, Nat.add_assoc, Nat.add_comm 1]

theorem readExponent?_delimited {rest : Input} (h : Delimited rest) :
    readExponent? rest = .ok (none, rest) := by
  cases rest with
  | nil => rfl
  | cons c rest =>
    have hall : (itemEnds.all fun c => c != 'e' && c != 'E') = true := by decide
    have hc := List.all_eq_true.mp hall c (h c rfl)
    rw [Bool.and_eq_true, bne_iff_ne, bne_iff_ne] at hc
    rw [readExponent?, if_neg (not_or.mpr hc)]

/-- Digits without a zero in front are read as the whole number that they are. -/
theorem readNumber_toDigits (negative : Bool) {n : Nat} (hn : n < 2 ^ 64) {rest : Input}
    (h : Delimited rest) :
    readNumber negative (Nat.toDigits 10 n ++ rest) =
      (wholeOf negative n).map fun r => (r, rest) := by
  obtain ⟨htake, hdrop⟩ := takeWhile_digits (isDigit_toDigits n) h.takeWhile_isDigit
  have hempty : (Nat.toDigits 10 n).isEmpty = false := List.isEmpty_eq_false_iff.mpr Nat.toDigits_ne_nil
  have hzero : ¬((Nat.toDigits 10 n).head? = some '0' ∧ 1 < (Nat.toDigits 10 n).length) := by
    rintro ⟨hhead, hlength⟩
    rcases Nat.eq_zero_or_pos n with rfl | hpos
    · exact absurd hlength (by decide)
    · exact head?_toDigits hpos hhead
  have habsorb : absorb 0 0 (Nat.toDigits 10 n) = (n, (Nat.toDigits 10 n).length) := by
    have hvalue := digitsValue_toDigits n
    rw [digitsValue] at hvalue
    rw [absorb_eq (by rwa [hvalue]), hvalue, Nat.zero_add]
  have hmoved : ((0 : Nat) : Int) = 0 := rfl
  unfold readNumber
  simp only [htake, hdrop, hempty, hzero, habsorb, Nat.sub_self, hmoved, Bool.false_eq_true,
    if_false, if_true]
  split
  · next after => exact absurd rfl (h.ne (by decide) after)
  · rw [readExponent?_delimited h]
    cases wholeOf negative n <;> rfl

/-- The whole part of a number: digits, the first of them no zero unless it is the only one. -/
structure WholeText (ds : List Char) : Prop where
  ne_nil : ds ≠ []
  isDigit : ∀ c ∈ ds, c.isDigit = true
  not_padded : ¬(ds.head? = some '0' ∧ 1 < ds.length)

/-- The exponent of a number: its letter, a sign and digits. -/
def ExponentText (cs : List Char) : Prop :=
  ∃ sign ds, cs = 'e' :: sign :: ds ∧ (sign = '+' ∨ sign = '-') ∧ ds ≠ [] ∧
    ∀ c ∈ ds, c.isDigit = true

/-- A number without its sign that has a point with digits, or an exponent, or both. -/
inductive FractionText : List Char → Prop
  | point {whole fraction tail : List Char} (hwhole : WholeText whole) (hne : fraction ≠ [])
    (hfraction : ∀ c ∈ fraction, c.isDigit = true) (htail : tail = [] ∨ ExponentText tail) :
    FractionText (whole ++ '.' :: (fraction ++ tail))
  | plain {whole tail : List Char} (hwhole : WholeText whole) (htail : ExponentText tail) :
    FractionText (whole ++ tail)

theorem ExponentText.exists_readExponent? {tail : List Char} (h : ExponentText tail) :
    ∃ e, ∀ rest, Delimited rest → readExponent? (tail ++ rest) = .ok (some e, rest) := by
  obtain ⟨sign, ds, rfl, hsign, hne, hds⟩ := h
  have hempty : ds.isEmpty = false := List.isEmpty_eq_false_iff.mpr hne
  rcases hsign with rfl | rfl
  · refine ⟨digitsValue ds, fun rest hrest => ?_⟩
    obtain ⟨htake, hdrop⟩ := takeWhile_digits hds hrest.takeWhile_isDigit
    simp [readExponent?, readExponent, htake, hdrop, hempty, bind, Except.bind, pure, Except.pure]
  · refine ⟨-(digitsValue ds : Int), fun rest hrest => ?_⟩
    obtain ⟨htake, hdrop⟩ := takeWhile_digits hds hrest.takeWhile_isDigit
    simp [readExponent?, readExponent, htake, hdrop, hempty, bind, Except.bind, pure, Except.pure]

theorem ExponentText.takeWhile_isDigit {tail : List Char} (h : ExponentText tail) (rest : List Char) :
    (tail ++ rest).takeWhile Char.isDigit = [] := by
  obtain ⟨sign, ds, rfl, -⟩ := h
  rfl

/-- What stands behind the point of a number: nothing or an exponent. -/
theorem exists_readTail {tail : List Char} (h : tail = [] ∨ ExponentText tail) :
    ∃ e, ∀ rest, Delimited rest → (tail ++ rest).takeWhile Char.isDigit = [] ∧
      readExponent? (tail ++ rest) = .ok (e, rest) := by
  rcases h with rfl | h
  · exact ⟨none, fun rest hrest => ⟨hrest.takeWhile_isDigit, readExponent?_delimited hrest⟩⟩
  · obtain ⟨e, he⟩ := h.exists_readExponent?
    exact ⟨some e, fun rest hrest => ⟨h.takeWhile_isDigit rest, he rest hrest⟩⟩

/-- A number with a point or an exponent is read as a fraction, whatever its sign and whatever follows. -/
theorem FractionText.exists_readNumber {cs : List Char} (h : FractionText cs) :
    ∃ significand exponent, ∀ negative rest, Delimited rest →
      readNumber negative (cs ++ rest) =
        (fractionOf negative significand exponent).map fun r => (r, rest) := by
  cases h with
  | @point whole fraction tail hwhole hne hfraction htail =>
    obtain ⟨e, he⟩ := exists_readTail htail
    refine ⟨(absorb (absorb 0 0 whole).1 0 fraction).1, ((whole.length - (absorb 0 0 whole).2 : Nat) : Int) -
      (absorb (absorb 0 0 whole).1 0 fraction).2 + e.getD 0, fun negative rest hrest => ?_⟩
    obtain ⟨hdigits, hread⟩ := he rest hrest
    have hpoint : ('.' :: (fraction ++ (tail ++ rest))).takeWhile Char.isDigit = [] := rfl
    obtain ⟨htake, hdrop⟩ := takeWhile_digits hwhole.isDigit hpoint
    obtain ⟨htake', hdrop'⟩ := takeWhile_digits hfraction hdigits
    have hempty : whole.isEmpty = false := List.isEmpty_eq_false_iff.mpr hwhole.ne_nil
    have hempty' : fraction.isEmpty = false := List.isEmpty_eq_false_iff.mpr hne
    rw [List.append_assoc, List.cons_append, List.append_assoc]
    unfold readNumber
    simp only [htake, hdrop, htake', hdrop', hempty, hempty', hwhole.not_padded, hread,
      Bool.false_eq_true, if_false, bind, Except.bind, pure, Except.pure]
    rfl
  -- No point: the exponent stands behind the digits at once.
  | @plain whole tail hwhole htail =>
    obtain ⟨e, he⟩ := htail.exists_readExponent?
    refine ⟨(absorb 0 0 whole).1, ((whole.length - (absorb 0 0 whole).2 : Nat) : Int) + e,
      fun negative rest hrest => ?_⟩
    obtain ⟨htake, hdrop⟩ := takeWhile_digits hwhole.isDigit (htail.takeWhile_isDigit rest)
    have hempty : whole.isEmpty = false := List.isEmpty_eq_false_iff.mpr hwhole.ne_nil
    have hread := he rest hrest
    rw [List.append_assoc]
    unfold readNumber
    simp only [htake, hdrop, hempty, hwhole.not_padded, Bool.false_eq_true, if_false]
    split
    · next after hafter =>
      obtain ⟨sign, ds, rfl, -⟩ := htail
      cases hafter
    · simp only [hread, bind, Except.bind, pure, Except.pure]
      rfl

/-- What is read as a fraction is one. -/
theorem exists_of_fractionOf {negative : Bool} {significand : Nat} {exponent : Int} {n : JsonNumber}
    (h : fractionOf negative significand exponent = .ok n) : ∃ m, n = .fraction negative m := by
  unfold fractionOf at h
  split at h
  · split at h
    · exact ⟨_, (Except.ok.inj h).symm⟩
    · cases h
  · cases h

theorem wholeText_of_leadingDigits {ds : List Char} (h : LeadingDigits ds) : WholeText ds where
  ne_nil := h.ne_nil
  isDigit := h.isDigit
  not_padded := fun hpadded => h.not_zero hpadded.1

theorem wholeText_singleton {d : Char} (h : d.isDigit = true) : WholeText [d] where
  ne_nil := List.cons_ne_nil d []
  isDigit := List.forall_mem_singleton.mpr h
  not_padded := fun hzero => absurd hzero.2 (Nat.lt_irrefl 1)

variable {ds : List Char}

theorem fractionText_setPositional (hds : LeadingDigits ds) (point : Int) :
    FractionText (NumberLayout.json.setPositional ds point) := by
  obtain ⟨zeros, -, htext⟩ | ⟨zeros, -, htext⟩ | ⟨n, hpos, hlength, -, htext⟩ :=
    NumberLayout.json.setPositional_cases ds point
  · have hzero : WholeText ['0'] := wholeText_singleton rfl
    have h := FractionText.point hzero (List.append_ne_nil_of_right_ne_nil _ hds.ne_nil)
      (List.forall_mem_append.mpr ⟨all_isDigit_zeros zeros, hds.isDigit⟩) (.inl rfl)
    rw [htext]
    rwa [List.append_nil] at h
  · rw [htext]
    exact .point (wholeText_of_leadingDigits (hds.append_zeros zeros)) (List.cons_ne_nil '0' [])
      (List.forall_mem_singleton.mpr rfl) (.inl rfl)
  · have hdrop : ds.drop n ≠ [] := by
      rw [ne_eq, List.drop_eq_nil_iff, not_le]
      exact hlength
    have h := FractionText.point (wholeText_of_leadingDigits (hds.take hpos)) hdrop
      (fun c hc => hds.isDigit c (List.mem_of_mem_drop hc)) (.inl rfl)
    rwa [List.append_nil, ← htext] at h

theorem fractionText_setScientific (hds : WholeText ds) (exponent : Int) :
    FractionText (NumberLayout.setScientific ds exponent) := by
  have hexponent : ExponentText ((if exponent < 0 then ['e', '-'] else ['e', '+']) ++
      Nat.toDigits 10 exponent.natAbs) := by
    split
    · exact ⟨'-', _, rfl, .inr rfl, Nat.toDigits_ne_nil, isDigit_toDigits _⟩
    · exact ⟨'+', _, rfl, .inl rfl, Nat.toDigits_ne_nil, isDigit_toDigits _⟩
  obtain ⟨d, rest, rfl⟩ := List.exists_cons_of_ne_nil hds.ne_nil
  have hone : WholeText [d] := wholeText_singleton (hds.isDigit d List.mem_cons_self)
  unfold NumberLayout.setScientific
  dsimp only
  rw [List.append_assoc]
  split
  · exact .plain hone hexponent
  · next hlength =>
    have hrest : rest ≠ [] := by
      rintro rfl
      exact hlength (Nat.le_refl 1)
    have h := FractionText.point hone hrest
      (fun c hc => hds.isDigit c (List.mem_cons_of_mem d hc)) (.inr hexponent)
    simpa only [List.take_succ_cons, List.take_zero, List.drop_succ_cons, List.drop_zero,
      List.append_assoc, List.cons_append, List.nil_append] using h

/-- A fraction is written with a point or an exponent. -/
theorem fractionText_setMagnitude (m : Magnitude) :
    FractionText (NumberLayout.json.setMagnitude m) := by
  unfold NumberLayout.setMagnitude
  dsimp only
  split
  · exact .point (wholeText_singleton rfl) (List.cons_ne_nil '0' [])
      (List.forall_mem_singleton.mpr rfl) (.inl rfl)
  · next hdigits =>
    have hds := leadingDigits_toDigits (Nat.pos_of_ne_zero hdigits)
    split
    · split
      · exact fractionText_setPositional hds _
      · exact fractionText_setScientific (wholeText_of_leadingDigits hds) _
    · exact fractionText_setPositional hds _

end Scaffold.Json
