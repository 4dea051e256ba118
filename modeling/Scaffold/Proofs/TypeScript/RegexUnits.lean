import Scaffold.Pattern.Estimate
import Scaffold.Pattern.Meaning
import Scaffold.Proofs.TypeScript.Lexer
import Scaffold.Text.Embedded

/-!
Patterns and the bodies of their literals, unit by unit. A unit is a bare character or a backslash with
the character it takes, and several units stand for one character. A body writes every unit of its
pattern on its own, so the two differ in what they stand for exactly where a unit is not kept: behind a
backslash the end of a line is written as an escape whose backslash is taken by the one before it.
-/

namespace Scaffold.TypeScript

/-- A unit of a pattern. -/
inductive PatternUnit where
  | bare (c : Char)
  /-- A backslash with the character it takes. -/
  | escaped (c : Char)
deriving DecidableEq, Repr

namespace PatternUnit

/-- The units of a text. A backslash at the end has nothing to take. -/
def cut : List Char → List PatternUnit
  | '\\' :: c :: rest => escaped c :: cut rest
  | c :: rest => bare c :: cut rest
  | [] => []

/-- What a unit stands for by itself. -/
def meaning : PatternUnit → PatternUnit
  | escaped '/' => bare '/'
  | escaped '\n' => bare '\n'
  | escaped 'n' => bare '\n'
  | escaped '\r' => bare '\r'
  | escaped 'r' => bare '\r'
  | u => u

/-- What units stand for. The escapes of the two separators take four digits after the letter. -/
def resolve : List PatternUnit → List PatternUnit
  | escaped 'u' :: bare '2' :: bare '0' :: bare '2' :: bare '8' :: rest => bare '\u2028' :: resolve rest
  | escaped 'u' :: bare '2' :: bare '0' :: bare '2' :: bare '9' :: rest => bare '\u2029' :: resolve rest
  | u :: rest => u.meaning :: resolve rest
  | [] => []

/-- The units that the body of a literal has for a unit of its pattern. -/
def written : PatternUnit → List PatternUnit
  | bare c => if c = '\\' then [escaped c] else cut (Text.regexChar false c)
  | escaped c => cut ('\\' :: Text.regexChar true c)

/-- A unit that is written as something that stands for it: no backslash before the end of a line, and
none before the end of the pattern. -/
def isKept : PatternUnit → Bool
  | bare c => c != '\\'
  | escaped c => !isLineTerminator c

theorem isLineTerminator_iff (c : Char) :
    isLineTerminator c = true ↔ c = '\n' ∨ c = '\r' ∨ c = '\u2028' ∨ c = '\u2029' := by
  simp only [isLineTerminator, Bool.or_eq_true, beq_iff_eq, or_assoc]

theorem cut_cons {c : Char} (hc : c ≠ '\\') (cs : List Char) : cut (c :: cs) = bare c :: cut cs :=
  cut.eq_2 c cs fun _ _ h => absurd h hc

/-- Only a slash, and only a bare one, is written as something else in a line. -/
theorem regexChar_of_isLineTerminator (b : Bool) {c : Char} (hc : isLineTerminator c = false) :
    Text.regexChar b c = if c = '/' && !b then ['\\', '/'] else [c] := by
  simp only [isLineTerminator, Bool.or_eq_false_iff, beq_eq_false_iff_ne] at hc
  obtain ⟨⟨⟨hn, hr⟩, hls⟩, hps⟩ := hc
  simp [Text.regexChar, hn, hr, hls, hps]

/-- A body is cut where its pattern is: no unit of it takes from what is written for the next one. -/
theorem cut_regexChar_append {c : Char} (hc : c ≠ '\\') (w : List Char) :
    cut (Text.regexChar false c ++ w) = written (bare c) ++ cut w := by
  rw [written, if_neg hc]
  by_cases hline : isLineTerminator c = true
  · rcases (isLineTerminator_iff c).mp hline with rfl | rfl | rfl | rfl <;> rfl
  · rw [regexChar_of_isLineTerminator false (by simpa using hline)]
    split
    · rfl
    · rw [List.singleton_append, cut_cons hc, cut_cons hc]
      rfl

theorem cut_escaped_append (c : Char) (w : List Char) :
    cut ('\\' :: (Text.regexChar true c ++ w)) = written (escaped c) ++ cut w := by
  rw [written]
  by_cases hline : isLineTerminator c = true
  · rcases (isLineTerminator_iff c).mp hline with rfl | rfl | rfl | rfl <;> rfl
  · simp [regexChar_of_isLineTerminator true (Bool.eq_false_iff.mpr hline), cut]

/-- The units of a body are those that the units of its pattern are written as. -/
theorem cut_regexChars (cs : List Char) :
    cut (Text.regexChars false cs) = (cut cs).flatMap written := by
  induction cs using cut.induct with
  | case1 c rest ih =>
    -- Behind a backslash and what it takes, the writer stands where it began.
    have hbody : Text.regexChars false ('\\' :: c :: rest) =
        '\\' :: (Text.regexChar true c ++ Text.regexChars false rest) := by
      simp [Text.regexChars, Text.regexChar]
    rw [hbody, cut_escaped_append, ih, cut, List.flatMap_cons]
  | case2 c rest hescape ih =>
    rw [cut.eq_2 c rest hescape, List.flatMap_cons, ← ih]
    by_cases hc : c = '\\'
    · -- A backslash that takes nothing ends the pattern, and the writer doubles it.
      obtain rfl : rest = [] := by
        cases rest with
        | nil => rfl
        | cons d rest => exact absurd rfl (hescape d rest hc)
      subst hc
      rfl
    · have hstate : (decide (c = '\\') && !false) = false := by simp [hc]
      rw [Text.regexChars, hstate, cut_regexChar_append hc]
  | case3 => rfl

/-- A unit is written as itself or as something that begins with a backslash. -/
theorem written_cases (u : PatternUnit) : written u = [u] ∨ ∃ e rest, written u = escaped e :: rest := by
  cases u with
  | bare c =>
    by_cases hc : c = '\\'
    · exact .inr ⟨c, [], by simp [written, hc]⟩
    rw [written, if_neg hc]
    by_cases hline : isLineTerminator c = true
    · right
      rcases (isLineTerminator_iff c).mp hline with rfl | rfl | rfl | rfl <;> exact ⟨_, _, rfl⟩
    · rw [regexChar_of_isLineTerminator false (by simpa using hline)]
      split
      · exact .inr ⟨'/', [], rfl⟩
      · exact .inl (cut_cons hc [])
  | escaped c =>
    obtain ⟨d, ds, hd⟩ : ∃ d ds, Text.regexChar true c = d :: ds := by
      unfold Text.regexChar
      repeat' split
      all_goals exact ⟨_, _, rfl⟩
    exact .inr ⟨d, cut ds, by rw [written, hd, cut]⟩

/-- Digits of a body are digits of the pattern. -/
theorem exists_of_flatMap_written {us w : List PatternUnit} {d : Char}
    (h : us.flatMap written = bare d :: w) : ∃ rest, us = bare d :: rest ∧ rest.flatMap written = w := by
  cases us with
  | nil => cases h
  | cons u us =>
    rw [List.flatMap_cons] at h
    rcases written_cases u with hu | ⟨e, rest, hu⟩
    · rw [hu, List.singleton_append, List.cons.injEq] at h
      obtain ⟨rfl, hrest⟩ := h
      exact ⟨us, rfl, hrest⟩
    · rw [hu] at h
      cases h

/-- Units that make the escape of a separator of the letter before them. -/
def Completes (us : List PatternUnit) : Prop :=
  ∃ d rest, (d = '8' ∨ d = '9') ∧ us = bare '2' :: bare '0' :: bare '2' :: bare d :: rest

theorem completes_of_flatMap_written {us : List PatternUnit} (h : Completes (us.flatMap written)) :
    Completes us := by
  obtain ⟨d, w, hd, h₀⟩ := h
  obtain ⟨us₁, rfl, h₁⟩ := exists_of_flatMap_written h₀
  obtain ⟨us₂, rfl, h₂⟩ := exists_of_flatMap_written h₁
  obtain ⟨us₃, rfl, h₃⟩ := exists_of_flatMap_written h₂
  obtain ⟨us₄, rfl, -⟩ := exists_of_flatMap_written h₃
  exact ⟨d, us₄, hd, rfl⟩

theorem resolve_cons {u : PatternUnit} {us : List PatternUnit} (h : u = escaped 'u' → ¬Completes us) :
    resolve (u :: us) = u.meaning :: resolve us :=
  resolve.eq_3 u us (fun rest hu hus => h hu ⟨'8', rest, .inl rfl, hus⟩)
    fun rest hu hus => h hu ⟨'9', rest, .inr rfl, hus⟩

theorem resolve_written_append {u : PatternUnit} (hu : u.isKept = true) {w : List PatternUnit}
    (hw : u = escaped 'u' → ¬Completes w) : resolve (written u ++ w) = u.meaning :: resolve w := by
  cases u with
  | bare c =>
    have hc : c ≠ '\\' := bne_iff_ne.mp hu
    rw [written, if_neg hc]
    by_cases hline : isLineTerminator c = true
    · rcases (isLineTerminator_iff c).mp hline with rfl | rfl | rfl | rfl
      · exact resolve_cons (by simp)
      · exact resolve_cons (by simp)
      · rfl
      · rfl
    · rw [regexChar_of_isLineTerminator false (by simpa using hline)]
      split
      · next hslash =>
        obtain rfl : c = '/' := by simpa using hslash
        exact resolve_cons (by simp)
      · rw [cut_cons hc]
        exact resolve_cons (by simp)
  | escaped c =>
    rw [written, regexChar_of_isLineTerminator true ((Bool.not_eq_eq_eq_not ..).mp hu)]
    simpa [cut] using resolve_cons hw

theorem head?_resolve_written_append {u : PatternUnit} (hu : u.isKept = false) (w : List PatternUnit) :
    (resolve (written u ++ w)).head? ≠ some u.meaning := by
  have hbackslash (rest : List PatternUnit) :
      (resolve (escaped '\\' :: rest)).head? = some (escaped '\\') := by
    rw [resolve_cons (by simp)]
    rfl
  cases u with
  | bare c =>
    obtain rfl : c = '\\' := bne_eq_false_iff_eq.mp hu
    rw [written, if_pos rfl, List.singleton_append, hbackslash]
    decide
  | escaped c =>
    rcases (isLineTerminator_iff c).mp ((Bool.not_eq_eq_eq_not ..).mp hu) with rfl | rfl | rfl | rfl <;>
      exact (hbackslash _).trans_ne (by decide)

/-- Units mean in a body what they mean in the pattern, up to the first that is not kept. -/
theorem resolve_flatMap_written_iff (us : List PatternUnit) :
    resolve (us.flatMap written) = resolve us ↔ ∀ u ∈ us, u.isKept = true := by
  induction us using resolve.induct with
  | case1 rest ih | case2 rest ih =>
    -- The units of such an escape are written as themselves.
    have hletter : written (escaped 'u') = [escaped 'u'] := by rfl
    have hdigits : (['0', '2', '8', '9'].all fun d => written (bare d) == [bare d]) = true := by decide
    simp only [List.all_cons, List.all_nil, Bool.and_true, Bool.and_eq_true, beq_iff_eq] at hdigits
    simp [hletter, hdigits, resolve, ih, isKept, isLineTerminator]
  | case3 u rest h8 h9 ih =>
    -- What is written behind the letter makes a separator of it only if the pattern does.
    have hrest : u = escaped 'u' → ¬Completes rest := by
      rintro hu ⟨d, us, rfl | rfl, hus⟩
      · exact h8 us hu hus
      · exact h9 us hu hus
    rw [List.flatMap_cons, resolve_cons hrest, List.forall_mem_cons]
    by_cases hu : u.isKept = true
    · rw [resolve_written_append hu fun h hw => hrest h (completes_of_flatMap_written hw),
        List.cons.injEq, ih]
      exact and_congr_left' (iff_of_true rfl hu)
    · -- The first unit tells the two readings apart, whatever is behind it.
      have hhead := head?_resolve_written_append (Bool.eq_false_iff.mpr hu) (rest.flatMap written)
      exact iff_of_false (fun h => hhead (by rw [h, List.head?_cons])) fun h => hu h.1
  | case4 => exact iff_of_true rfl (List.forall_mem_nil _)

end PatternUnit

open PatternUnit

/-- The body of a literal stands for what its pattern stands for, unit by unit, exactly when every
backslash of the pattern takes a character that ends no line. -/
theorem resolve_regexBody_iff (pattern : String) :
    resolve (cut (Text.regexBody pattern).toList) = resolve (cut pattern.toList) ↔
      ∀ u ∈ cut pattern.toList, u.isKept = true := by
  rw [Text.regexBody, String.toList_ofList, cut_regexChars]
  exact resolve_flatMap_written_iff (cut pattern.toList)

/-- So a pattern that validation lets pass can change: a backslash before a line feed stands for the line
feed, and its literal has a backslash and a letter there. -/
theorem not_forall_resolve_regexBody :
    ¬ ∀ pattern : String, Pattern.check pattern = .ok () →
      resolve (cut (Text.regexBody pattern).toList) = resolve (cut pattern.toList) := by
  intro h
  have hsame := h "a\\\nb" (by rfl)
  have hbody : resolve (cut (Text.regexBody "a\\\nb").toList) =
      [bare 'a', escaped '\\', bare 'n', bare 'b'] := by rfl
  have hpattern : resolve (cut "a\\\nb".toList) = [bare 'a', bare '\n', bare 'b'] := by rfl
  rw [hbody, hpattern] at hsame
  cases hsame

end Scaffold.TypeScript
