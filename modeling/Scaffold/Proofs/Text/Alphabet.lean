import Mathlib.Data.List.Basic
import Mathlib.Data.List.TakeWhile
import Scaffold.Proofs.Validation.Rules
import Scaffold.Source.Literal

namespace Scaffold

namespace Text

/-- Whether a character can stand in an identifier. -/
def isNameChar (c : Char) : Bool :=
  identifierStart.contains c || identifierContinue.contains c || c == '_'

/-- Whether a character can stand in the text of a number. -/
def isNumberChar (c : Char) : Bool := c.isAlphanum || c == '+' || c == '-' || c == '.'

/-- A text that holds no end of a line. -/
def OneLine (s : String) : Prop := ∀ c ∈ s.toList, isLineEnd c = false

theorem oneLine_of_all {s : String} (h : (s.toList.all fun c => !isLineEnd c) = true) : OneLine s :=
  fun c hc => by simpa only [Bool.not_eq_true'] using List.all_eq_true.mp h c hc

theorem OneLine.append {s t : String} (hs : OneLine s) (ht : OneLine t) : OneLine (s ++ t) := by
  intro c hc
  rw [String.toList_append, List.mem_append] at hc
  exact hc.elim (hs c) (ht c)

/-- A joined text has the characters of its pieces and of what stands between them. -/
theorem mem_intercalate {sep : String} {xs : List String} {c : Char}
    (hc : c ∈ (sep.intercalate xs).toList) : c ∈ sep.toList ∨ ∃ x ∈ xs, c ∈ x.toList := by
  induction xs with
  | nil => cases hc
  | cons x xs ih =>
    cases xs with
    | nil =>
      rw [String.intercalate_singleton] at hc
      exact .inr ⟨x, List.mem_cons_self, hc⟩
    | cons y ys =>
      rw [String.intercalate_cons_cons, String.toList_append, String.toList_append, List.mem_append,
        List.mem_append] at hc
      rcases hc with (hc | hc) | hc
      · exact .inr ⟨x, List.mem_cons_self, hc⟩
      · exact .inl hc
      · obtain hsep | ⟨z, hz, hc⟩ := ih hc
        · exact .inl hsep
        · exact .inr ⟨z, List.mem_cons_of_mem x hz, hc⟩

theorem OneLine.intercalate {sep : String} {xs : List String} (hsep : OneLine sep)
    (h : ∀ x ∈ xs, OneLine x) : OneLine (sep.intercalate xs) := by
  intro c hc
  rcases mem_intercalate hc with hc | ⟨x, hx, hc⟩
  · exact hsep c hc
  · exact h x hx c hc

theorem isLineEnd_eq_false_iff (c : Char) :
    isLineEnd c = false ↔ c ≠ '\n' ∧ c ≠ '\r' ∧ c ≠ '\x0b' ∧ c ≠ '\x0c' ∧
      isWideLineEnd c = false := by
  simp only [isLineEnd, Bool.or_eq_false_iff, decide_eq_false_iff_not, and_assoc, ne_eq]

theorem IsIdentifier.isNameChar {s : String} (h : IsIdentifier s) :
    ∀ c ∈ s.toList, isNameChar c = true := by
  obtain ⟨d, rest, hs, hd, hr⟩ := h
  intro c hc
  rw [hs] at hc
  rcases List.mem_cons.mp hc with rfl | hc
  · rcases hd with hd | rfl
    · simp only [Text.isNameChar, hd, Bool.true_or]
    · rfl
  · simp only [Text.isNameChar, hr c hc, Bool.or_true, Bool.true_or]

theorem IsIdentifier.ne_nil {s : String} (h : IsIdentifier s) : s.toList ≠ [] := by
  obtain ⟨d, rest, hs, -⟩ := h
  rw [hs]
  exact List.cons_ne_nil d rest

/-- A name with characters behind it that continue names. -/
theorem IsIdentifier.append {s t : String} (h : IsIdentifier s)
    (ht : t.toList.all identifierContinue.contains = true) : IsIdentifier (s ++ t) := by
  obtain ⟨c, rest, hs, hc, hrest⟩ := h
  refine ⟨c, rest ++ t.toList, ?_, hc, fun d hd => ?_⟩
  · rw [String.toList_append, hs, List.cons_append]
  · exact (List.mem_append.mp hd).elim (hrest d) (List.all_eq_true.mp ht d)

/-- A name stands on one line. -/
theorem IsIdentifier.oneLine {s : String} (h : IsIdentifier s) : OneLine s := by
  have hall : ∀ d ∈ ['\n', '\r', '\x0b', '\x0c', '\u0085', '\u2028', '\u2029'],
      Text.isNameChar d = false := List.forall_iff_forall_mem.mp (by decide +kernel)
  intro c hc
  by_contra hend
  have hmem : c ∈ ['\n', '\r', '\x0b', '\x0c', '\u0085', '\u2028', '\u2029'] := by
    simpa only [isLineEnd, isWideLineEnd, Bool.not_eq_false, Bool.or_eq_true, decide_eq_true_eq,
      or_assoc, List.mem_cons, List.not_mem_nil, or_false] using hend
  have hname := h.isNameChar c hc
  rw [hall c hmem] at hname
  cases hname

/-- The characters that begin, end or part something in source text. -/
def punctuation : List Char :=
  ['"', '#', '\\', '\x60', '$', '(', ')', '[', ']', '\x7b', '\x7d', ',', ':', '=', '/', '*']

/-- No such character stands in a name. -/
theorem ne_of_isNameChar {c d : Char} (h : isNameChar c = true) (hd : d ∈ punctuation) : c ≠ d := by
  have hall : ∀ d ∈ punctuation, isNameChar d = false :=
    List.forall_iff_forall_mem.mp (by decide)
  rintro rfl
  rw [hall c hd] at h
  cases h

/-- A character of a name is no layout. -/
theorem ne_layout_of_isNameChar {c d : Char} (h : isNameChar c = true)
    (hd : d ∈ [' ', '\t', '\n', '\r']) : c ≠ d := by
  have hall : ∀ d ∈ [' ', '\t', '\n', '\r'], isNameChar d = false :=
    List.forall_iff_forall_mem.mp (by decide)
  rintro rfl
  rw [hall c hd] at h
  cases h

/-- What is cut from the end of a text is blank. -/
theorem mem_dropBlankEnd_or_isBlank {c : Char} {cs : List Char} (h : c ∈ cs) :
    c ∈ dropBlankEnd cs ∨ isBlank c = true := by
  induction cs with
  | nil => cases h
  | cons d rest ih =>
    have hrest (hc : c ∈ rest) (he : dropBlankEnd rest = []) : isBlank c = true := by
      rcases ih hc with hm | hb
      · rw [he] at hm
        cases hm
      · exact hb
    unfold dropBlankEnd
    split
    · next he =>
      rcases List.mem_cons.mp h with rfl | hc
      · cases hb : isBlank c <;> simp
      · exact .inr (hrest hc he)
    · rcases List.mem_cons.mp h with rfl | hc
      · exact .inl List.mem_cons_self
      · exact (ih hc).imp_left (List.mem_cons_of_mem d)

theorem mem_dropWhile_or {α : Type} {p : α → Bool} {a : α} {l : List α} (h : a ∈ l) :
    a ∈ l.dropWhile p ∨ p a = true := by
  rw [← List.takeWhile_append_dropWhile (p := p) (l := l), List.mem_append] at h
  rcases h with h | h
  · exact .inr (List.mem_takeWhile_imp h)
  · exact .inl h

/-- What is cut from a text is blank. -/
theorem mem_trim_or_isBlank {c : Char} {s : String} (h : c ∈ s.toList) :
    c ∈ (trim s).toList ∨ isBlank c = true := by
  simp only [trim, stripBlanks, String.toList_ofList]
  rcases mem_dropWhile_or (p := isBlank) h with hc | hb
  · exact mem_dropBlankEnd_or_isBlank hc
  · exact .inr hb

theorem mem_of_mem_dropBlankEnd {c : Char} {cs : List Char} (h : c ∈ dropBlankEnd cs) : c ∈ cs := by
  induction cs with
  | nil => exact h
  | cons d rest ih =>
    unfold dropBlankEnd at h
    split at h
    · split at h
      · cases h
      · rw [List.mem_singleton.mp h]
        exact List.mem_cons_self
    · rcases List.mem_cons.mp h with rfl | hc
      · exact List.mem_cons_self
      · exact List.mem_cons_of_mem d (ih hc)

theorem mem_of_mem_dropEmptyEnd {piece : List Char} {ps : List (List Char)}
    (h : piece ∈ dropEmptyEnd ps) : piece ∈ ps := by
  induction ps with
  | nil => exact h
  | cons p rest ih =>
    unfold dropEmptyEnd at h
    split at h
    · split at h
      · cases h
      · rw [List.mem_singleton.mp h]
        exact List.mem_cons_self
    · rcases List.mem_cons.mp h with rfl | hp
      · exact List.mem_cons_self
      · exact List.mem_cons_of_mem p (ih hp)

/-- A comment line shows characters that end no line. -/
theorem exists_of_mem_commentLines {s l : String} (hl : l ∈ commentLines s) {c : Char} (hc : c ∈ l.toList) :
    ∃ d, isLineEnd d = false ∧ c = commentChar d := by
  unfold commentLines at hl
  dsimp only at hl
  split at hl
  · rw [List.mem_singleton.mp hl] at hc
    cases hc
  · obtain ⟨piece, hpiece, rfl⟩ := List.mem_map.mp hl
    obtain ⟨line, hline, rfl⟩ := List.mem_map.mp (mem_of_mem_dropEmptyEnd hpiece)
    rw [String.toList_ofList] at hc
    obtain ⟨d, hd, rfl⟩ := List.mem_map.mp (mem_of_mem_dropBlankEnd hc)
    exact ⟨d, of_mem_splitWhere isLineEnd _ line hline d hd, rfl⟩

/-- A comment line never holds the end of a line. -/
theorem oneLine_of_mem_commentLines {s l : String} (hl : l ∈ commentLines s) : OneLine l := by
  intro c hc
  obtain ⟨d, hd, rfl⟩ := exists_of_mem_commentLines hl hc
  unfold commentChar
  split
  · rfl
  · exact hd

/-- The only control character in a comment line is the tab. -/
theorem eq_tab_of_mem_commentLines {s l : String} (hl : l ∈ commentLines s) {c : Char} (hc : c ∈ l.toList)
    (hcontrol : isControl c = true) : c = '\t' := by
  obtain ⟨d, -, rfl⟩ := exists_of_mem_commentLines hl hc
  unfold commentChar at hcontrol ⊢
  split at hcontrol
  · exact absurd hcontrol (by decide)
  · next hd =>
    rw [if_neg hd]
    simpa only [hcontrol, Bool.true_and, bne_iff_ne, ne_eq, not_not] using hd

theorem isNumberChar_of_isDigit {c : Char} (h : c.isDigit = true) : isNumberChar c = true := by
  simp only [isNumberChar, Char.isAlphanum, h, Bool.or_true, Bool.true_or]

/-- The letters of ASCII by their codes. -/
theorem isAlpha_iff {c : Char} :
    c.isAlpha = true ↔ 65 ≤ c.toNat ∧ c.toNat ≤ 90 ∨ 97 ≤ c.toNat ∧ c.toNat ≤ 122 := by
  have halpha : c.isAlpha = (decide (c.val ≥ 'A'.val ∧ c.val ≤ 'Z'.val) ||
      (c.val ≥ 'a'.val && c.val ≤ 'z'.val)) := rfl
  rw [halpha]
  simp only [Bool.or_eq_true, Bool.and_eq_true, decide_eq_true_eq, ge_iff_le,
    UInt32.le_iff_toNat_le, Char.reduceVal, UInt32.reduceToNat]
  exact Iff.rfl

theorem isNumberChar_of_isAlpha {c : Char} (h : c.isAlpha = true) : isNumberChar c = true := by
  simp only [isNumberChar, Char.isAlphanum, h, Bool.true_or]

end Text

/-- Every character of a text can stand in the text of a number. -/
def NumberText (cs : List Char) : Prop := ∀ c ∈ cs, Text.isNumberChar c = true

theorem numberText_of_all {cs : List Char} (h : cs.all Text.isNumberChar = true) : NumberText cs :=
  List.all_eq_true.mp h

theorem numberText_toDigits (n : Nat) : NumberText (Nat.toDigits 10 n) := fun _ hc =>
  Text.isNumberChar_of_isDigit (Nat.isDigit_of_mem_toDigits (by decide) (by decide) hc)

theorem NumberText.append {a b : List Char} (ha : NumberText a) (hb : NumberText b) :
    NumberText (a ++ b) := fun c hc => (List.mem_append.mp hc).elim (ha c) (hb c)

theorem NumberText.cons {c : Char} {a : List Char} (hc : Text.isNumberChar c = true)
    (ha : NumberText a) : NumberText (c :: a) := List.forall_mem_cons.mpr ⟨hc, ha⟩

theorem NumberText.subset {a b : List Char} (hb : NumberText b) (h : a ⊆ b) : NumberText a :=
  fun c hc => hb c (h hc)

theorem numberText_replicate_zero (n : Nat) : NumberText (List.replicate n '0') := fun c hc => by
  rw [List.eq_of_mem_replicate hc]
  rfl

theorem NumberText.setPositional (layout : NumberLayout) {ds : List Char} (h : NumberText ds)
    (point : Int) : NumberText (layout.setPositional ds point) := by
  have hwhole : NumberText (if layout.wholeHasFraction then ['.', '0'] else []) := by
    cases layout.wholeHasFraction <;> exact numberText_of_all (by decide)
  unfold NumberLayout.setPositional
  dsimp only
  split
  · exact .cons (by decide) (.cons (by decide) ((numberText_replicate_zero _).append h))
  · split
    · exact (h.append (numberText_replicate_zero _)).append hwhole
    · exact (h.subset (List.take_subset ..)).append
        (.cons (by decide) (h.subset (List.drop_subset ..)))

theorem NumberText.setScientific {ds : List Char} (h : NumberText ds) (exponent : Int) :
    NumberText (NumberLayout.setScientific ds exponent) := by
  have hmark : NumberText (if exponent < 0 then ['e', '-'] else ['e', '+']) := by
    split <;> exact numberText_of_all (by decide)
  have hfraction : NumberText (if ds.length ≤ 1 then [] else '.' :: ds.drop 1) := by
    split
    · exact fun _ hc => absurd hc List.not_mem_nil
    · exact .cons (by decide) (h.subset (List.drop_subset ..))
  exact (((h.subset (List.take_subset ..)).append hfraction).append hmark).append
    (numberText_toDigits _)

theorem numberText_setMagnitude (layout : NumberLayout) (m : Magnitude) :
    NumberText (layout.setMagnitude m) := by
  have hd := numberText_toDigits (m.shortest layout.tie).digits
  have hzero : NumberText ['0'] := numberText_of_all (by decide)
  unfold NumberLayout.setMagnitude
  dsimp only
  split
  · exact hzero.setPositional layout 1
  · split
    · split
      · exact hd.setPositional layout _
      · exact hd.setScientific _
    · exact hd.setPositional layout _

theorem numberText_set (layout : NumberLayout) (x : Binary64) :
    NumberText (layout.set x).toList := by
  cases x with
  | nan =>
    change NumberText "NaN".toList
    exact numberText_of_all (by decide)
  | infinite negative =>
    change NumberText (if negative then "-inf" else "inf").toList
    cases negative <;> exact numberText_of_all (by decide)
  | finite negative m =>
    simp only [NumberLayout.set, String.toList_ofList]
    refine NumberText.append ?_ (numberText_setMagnitude layout m)
    cases negative <;> exact numberText_of_all (by decide)

/-- The text of a bound consists of characters of numbers. -/
theorem Binary64.numberText_text (x : Binary64) : NumberText x.text.toList :=
  numberText_set .plain x

/-- The text of a number of a description consists of characters of numbers. -/
theorem JsonNumber.numberText_text (n : JsonNumber) : NumberText n.text.toList := by
  cases n with
  | natural n =>
    simp only [text, String.toList_ofList]
    exact numberText_toDigits _
  | negative n _ =>
    simp only [text, String.toList_ofList]
    exact .cons rfl (numberText_toDigits _)
  | fraction minus m => exact numberText_set .json _

/-- The text of a whole number consists of characters of numbers. -/
theorem numberText_toString (n : Nat) : NumberText (toString n).toList := by
  simp only [toString, Nat.toList_repr]
  exact numberText_toDigits n

theorem numberText_of_all_isDigit {cs : List Char} (h : cs.all Char.isDigit = true) :
    NumberText cs := fun c hc => Text.isNumberChar_of_isDigit (List.all_eq_true.mp h c hc)

theorem numberText_takeWhile_isDigit (cs : List Char) : NumberText (cs.takeWhile Char.isDigit) :=
  fun _ hc => Text.isNumberChar_of_isDigit (List.mem_takeWhile_imp hc)

theorem NumberText.of_takeSign {cs : List Char} (h : NumberText (takeSign cs).2) :
    NumberText cs := by
  unfold takeSign at h
  split at h
  · exact .cons (by decide) h
  · exact .cons (by decide) h
  · exact h

theorem isAlpha_of_isAlpha_toLower {c : Char} (h : c.toLower.isAlpha = true) :
    c.isAlpha = true := by
  by_cases hu : c.isUpper = true
  · exact Bool.or_eq_true_iff.mpr (.inl hu)
  · have hc : c.toLower = c := dif_neg fun h => hu (decide_eq_true h)
    rwa [hc] at h

/-- The words for the numbers that are not finite consist of letters, whatever their case. -/
theorem numberText_of_map_toLower {cs : List Char} {word : String}
    (hword : ∀ c ∈ word.toList, c.isAlpha = true)
    (h : String.ofList (cs.map Char.toLower) = word) : NumberText cs := by
  intro c hc
  have hm : c.toLower ∈ word.toList := by
    rw [← h, String.toList_ofList]
    exact List.mem_map_of_mem hc
  exact Text.isNumberChar_of_isAlpha (isAlpha_of_isAlpha_toLower (hword _ hm))

theorem numberText_of_readExponent? {cs : List Char} {e : Int} (h : readExponent? cs = some e) :
    NumberText cs := by
  unfold readExponent? at h
  split at h
  · exact fun _ hc => absurd hc List.not_mem_nil
  · next c rest =>
    split at h
    · next hc =>
      dsimp only at h
      split at h
      · cases h
      · next hd =>
        have hds : (takeSign rest).2.all Char.isDigit = true := by
          simp only [Bool.or_eq_true, Bool.not_eq_true', not_or, Bool.not_eq_false] at hd
          exact hd.2
        refine .cons ?_ (.of_takeSign (numberText_of_all_isDigit hds))
        rcases hc with rfl | rfl <;> decide
    · cases h

theorem numberText_of_readUnsigned? {negative : Bool} {cs : List Char} {x : Binary64}
    (h : readUnsigned? negative cs = some x) : NumberText cs := by
  unfold readUnsigned? at h
  dsimp only at h
  split at h
  · next hw =>
    rcases hw with hw | hw <;> exact numberText_of_map_toLower (List.all_eq_true.mp (by decide)) hw
  · split at h
    · next hw => exact numberText_of_map_toLower (List.all_eq_true.mp (by decide)) hw
    · rw [← List.takeWhile_append_dropWhile (p := Char.isDigit) (l := cs)]
      refine (numberText_takeWhile_isDigit cs).append ?_
      split at h
      · next after hafter =>
        rw [hafter]
        dsimp only at h
        split at h
        · cases h
        · obtain ⟨e, he, -⟩ := Option.map_eq_some_iff.mp h
          rw [← List.takeWhile_append_dropWhile (p := Char.isDigit) (l := after)]
          exact .cons (by decide)
            ((numberText_takeWhile_isDigit after).append (numberText_of_readExponent? he))
      · dsimp only at h
        split at h
        · cases h
        · obtain ⟨e, he, -⟩ := Option.map_eq_some_iff.mp h
          exact numberText_of_readExponent? he

theorem Binary64.numberText_of_read? {s : String} {x : Binary64} (h : read? s = some x) :
    NumberText s.toList := .of_takeSign (numberText_of_readUnsigned? h)

theorem numberText_of_readInteger? {s : String} {n : Int} (h : readInteger? s = some n) :
    NumberText s.toList := by
  unfold readInteger? at h
  dsimp only at h
  split at h
  · cases h
  · next hd =>
    simp only [Bool.or_eq_true, Bool.not_eq_true', not_or, Bool.not_eq_false] at hd
    exact .of_takeSign (numberText_of_all_isDigit hd.2)

/-- Every character is a blank or can stand in the text of a number. -/
def TokenText (cs : List Char) : Prop :=
  ∀ c ∈ cs, Text.isNumberChar c = true ∨ Text.isBlank c = true

theorem NumberText.tokenText {cs : List Char} (h : NumberText cs) : TokenText cs :=
  fun c hc => .inl (h c hc)

/-- No character that parts source text stands in a number or around it. -/
theorem TokenText.ne {cs : List Char} (h : TokenText cs) {c d : Char} (hc : c ∈ cs)
    (hd : d ∈ Text.punctuation) : c ≠ d := by
  have hall : ∀ d ∈ Text.punctuation, Text.isNumberChar d = false ∧ Text.isBlank d = false :=
    List.forall_iff_forall_mem.mp (by decide)
  rintro rfl
  rcases h c hc with hn | hb
  · rw [(hall c hd).1] at hn
    cases hn
  · rw [(hall c hd).2] at hb
    cases hb

/-- A text that is a number without the blanks around it. -/
theorem tokenText_of_trim {s : String} (h : NumberText (Text.trim s).toList) :
    TokenText s.toList := fun c hc => (Text.mem_trim_or_isBlank hc).imp_left (h c)

/-- A default that suits a type without quotes is written with blanks and characters of numbers
only, if truth values are spelled so. -/
theorem DefaultValue.Suits.tokenText_literal {c : Constraints} {type : ParamType}
    {v : DefaultValue} (h : v.Suits c type) (ht : type.isTextual = false) {spell : Bool → String}
    (hspell : ∀ b, NumberText (spell b).toList) : TokenText (v.literal type spell).toList := by
  have hraw (s : String) (hs : TokenText s.toList) :
      TokenText ((DefaultValue.string s).literal type spell).toList := by
    unfold DefaultValue.literal
    rw [ht, if_neg Bool.false_ne_true]
    split
    · exact (hspell _).tokenText
    · exact (hspell true).tokenText
    · exact (hspell false).tokenText
    · exact hs
  have hnumber (n : JsonNumber) : TokenText ((DefaultValue.number n).literal type spell).toList := by
    simp only [DefaultValue.literal, ht, Bool.false_eq_true, if_false]
    exact n.numberText_text.tokenText
  cases h with
  | text h => cases type <;> cases ht <;> cases h
  | number n => exact hnumber n
  | numberText h =>
    obtain ⟨x, h⟩ := h
    exact hraw _ (tokenText_of_trim (Binary64.numberText_of_read? h))
  | integer h => exact hnumber _
  | integerText h =>
    obtain ⟨n, h⟩ := h
    exact hraw _ (tokenText_of_trim (numberText_of_readInteger? h))
  | bool b => exact (hspell b).tokenText
  | boolText h =>
    refine hraw _ (NumberText.tokenText ?_)
    rcases h with rfl | rfl <;> exact numberText_of_all (by decide)
  | date h => cases ht
  | choice h => cases ht

end Scaffold
