import Scaffold.Proofs.Json.Token
import Scaffold.Server.Decode
import Scaffold.Server.Encode

/-!
Decoders that take the text of a JSON value for a value of their own. Each of them is proved for any text
that may stand behind the value, with as many steps as the value has characters, so that those of lists
and records follow from those of their parts.
-/

namespace Scaffold

/-- A number is read back from the text that JSON has for it. -/
def Binary64.ReadsBack (x : Binary64) : Prop :=
  Json.readText Json.aBinary64 (NumberLayout.json.set x) = .ok x

instance (x : Binary64) : Decidable x.ReadsBack := inferInstanceAs (Decidable (_ = _))

/-- Not every finite number is: the reader rounds the digits and then once more for their exponent. -/
theorem Binary64.not_forall_readsBack : ¬∀ x : Binary64, x.isFinite = true → x.ReadsBack := by
  intro h
  have hlost : ¬(ofDecimal false 31245270191439438 (-15)).ReadsBack := by decide +kernel
  exact hlost (h _ (by decide))

/-- Whole numbers are read back whatever they are; a fraction depends on the rounding of the reader. -/
def JsonNumber.ReadsBack : JsonNumber → Prop
  | .fraction sign m => (Binary64.finite sign m).ReadsBack
  | _ => True

namespace Json

/-- The text of a value on one line, as characters. -/
def line (j : Json) : Input := j.compact.toList

/-- The text of a member of an object. -/
def memberLine (m : String × Json) : Input := (Text.jsonQuote m.1).toList ++ ':' :: line m.2

/-- Parts with a separator between them: the separator stands in front of each part but the first. -/
theorem intercalate_cons_flatMap (separator p : Input) (ps : List Input) :
    separator.intercalate (p :: ps) = p ++ ps.flatMap (separator ++ ·) := by
  induction ps generalizing p with
  | nil => simp
  | cons q ps ih => simp [List.intercalate_cons_cons, ih]

theorem intercalate_comma (p : Input) (ps : List Input) :
    [','].intercalate (p :: ps) = p ++ ps.flatMap (',' :: ·) := intercalate_cons_flatMap [','] p ps

theorem compactItems_eq_map (items : List Json) : compactItems items = items.map compact := by
  induction items with
  | nil => rfl
  | cons item items ih => rw [compactItems, ih, List.map_cons]

theorem line_array (items : List Json) :
    line (array items) = '[' :: ([','].intercalate (items.map line) ++ [']']) := by
  simp only [line, compact, compactItems_eq_map, String.toList_append, String.toList_intercalate,
    List.map_map]
  rfl

theorem compactMembers_eq_map (members : List (String × Json)) :
    (compactMembers members).map String.toList = members.map memberLine := by
  induction members with
  | nil => rfl
  | cons m members ih =>
    rw [compactMembers, List.map_cons, ih, List.map_cons, memberLine]
    simp [line]

theorem line_object (members : List (String × Json)) :
    line (object members) = '\x7b' :: ([','].intercalate (members.map memberLine) ++ ['\x7d']) := by
  simp only [line, compact, String.toList_append, String.toList_intercalate, compactMembers_eq_map]
  rfl

theorem exists_line_string (s : String) :
    ∃ cs, line (.string s) = '"' :: cs ∧ ∀ rest, readString (cs ++ rest) = .ok (s, rest) :=
  exists_toList_jsonQuote s

/-- The start of a value: no blank, neither `null` nor the end of a list. -/
def Opens (cs : Input) : Prop := ∃ c tail, cs = c :: tail ∧ isSpace c = false ∧ c ≠ 'n' ∧ c ≠ ']'

theorem Opens.length_pos {cs : Input} (h : Opens cs) : 0 < cs.length := by
  obtain ⟨c, tail, rfl, -⟩ := h
  exact Nat.zero_lt_succ _

/-- A decoder takes the text of a JSON value for `v`, whatever stands behind it. `levels` is how deep the
value nests. -/
structure Decoder.Takes {α : Type} (decode : Decoder α) (levels : Nat) (j : Json) (v : α) : Prop where
  opens : Opens (line j)
  reads {fuel depth : Nat} {rest : Input} : (line j).length ≤ fuel → levels ≤ depth →
    Delimited rest → decode fuel depth (line j ++ rest) = .ok (v, rest)

variable {α σ : Type}

theorem Decoder.Takes.mono {decode : Decoder α} {levels levels' : Nat} {j : Json} {v : α}
    (h : decode.Takes levels j v) (hle : levels ≤ levels') : decode.Takes levels' j v :=
  ⟨h.opens, fun hfuel hdepth => h.reads hfuel (Nat.le_trans hle hdepth)⟩

theorem skipSpace_cons {c : Char} (h : isSpace c = false) (tail : Input) :
    skipSpace (c :: tail) = c :: tail := by
  rw [skipSpace, List.dropWhile_cons_of_neg (by simp [h])]

theorem not_isSpace_of_isDigit {c : Char} (h : c.isDigit = true) : isSpace c = false := by
  have hall : ([' ', '\n', '\t', '\r'].all fun c => !c.isDigit) = true := by decide
  rw [Bool.eq_false_iff]
  intro hspace
  have hmem : c ∈ [' ', '\n', '\t', '\r'] := by
    simpa [isSpace, or_assoc] using hspace
  have hc := List.all_eq_true.mp hall c hmem
  rw [h] at hc
  cases hc

theorem takes_aString (s : String) : aString.Takes 0 (.string s) s := by
  obtain ⟨cs, hline, hread⟩ := exists_line_string s
  refine ⟨⟨'"', cs, hline, by decide⟩, fun _ _ _ => ?_⟩
  rw [hline]
  exact hread _

theorem takes_aBool (b : Bool) : aBool.Takes 0 (.bool b) b := by
  cases b with
  | true => exact ⟨⟨'t', ['r', 'u', 'e'], rfl, by decide⟩, fun _ _ _ => rfl⟩
  | false => exact ⟨⟨'f', ['a', 'l', 's', 'e'], rfl, by decide⟩, fun _ _ _ => rfl⟩

theorem takes_aVariant {ofName : String → Except Problem α} {s : String} {v : α}
    (h : ofName s = .ok v) : (aVariant ofName).Takes 0 (.string s) v := by
  obtain ⟨cs, hline, hread⟩ := exists_line_string s
  refine ⟨⟨'"', cs, hline, by decide⟩, fun {fuel depth rest} _ _ _ => ?_⟩
  have hunfold : aVariant ofName fuel depth ('"' :: (cs ++ rest)) =
      (readString (cs ++ rest)).bind fun r => (ofName r.1).bind fun v => .ok (v, r.2) := rfl
  rw [hline, List.cons_append, hunfold, hread, Except.bind, h]
  rfl

theorem takes_optional {decode : Decoder α} {levels : Nat} {j : Json} {v : α}
    (h : decode.Takes levels j v) : (optional decode).Takes levels j (some v) := by
  refine ⟨h.opens, fun {fuel depth rest} hfuel hdepth hrest => ?_⟩
  obtain ⟨c, tail, hline, hspace, hnull, -⟩ := h.opens
  have hread := h.reads hfuel hdepth hrest
  rw [hline, List.cons_append] at hread ⊢
  unfold optional
  rw [skipSpace_cons hspace]
  split
  · next heq => exact absurd (List.cons.inj heq).1 hnull
  · rw [hread]
    rfl

/-- The sign in front of a number. -/
def minus (negative : Bool) : Input := if negative then ['-'] else []

theorem WholeText.exists_cons {ds : List Char} (h : WholeText ds) :
    ∃ d tail, ds = d :: tail ∧ d.isDigit = true := by
  obtain ⟨d, tail, rfl⟩ := List.exists_cons_of_ne_nil h.ne_nil
  exact ⟨d, tail, rfl, h.isDigit d List.mem_cons_self⟩

theorem FractionText.exists_cons {cs : List Char} (h : FractionText cs) :
    ∃ d tail, cs = d :: tail ∧ d.isDigit = true := by
  cases h with
  | point hwhole =>
    obtain ⟨d, tail, rfl, hd⟩ := hwhole.exists_cons
    exact ⟨d, _, rfl, hd⟩
  | plain hwhole =>
    obtain ⟨d, tail, rfl, hd⟩ := hwhole.exists_cons
    exact ⟨d, _, rfl, hd⟩

/-- A number behind its sign is read by the decoders of numbers and by the reader of values. -/
theorem aNumber_minus (wanted : String) (fuel depth : Nat) {negative : Bool} {d : Char}
    (hd : d.isDigit = true) (tail : Input) :
    aNumber wanted fuel depth (minus negative ++ d :: tail) = readNumber negative (d :: tail) := by
  cases negative with
  | true => rfl
  | false =>
    have hsign : d ≠ '-' := by
      rintro rfl
      cases hd
    rw [minus, if_neg Bool.false_ne_true, List.nil_append]
    unfold aNumber
    rw [skipSpace_cons (not_isSpace_of_isDigit hd)]
    dsimp only
    rw [if_neg hsign, if_pos hd]

theorem readScalar_minus {negative : Bool} {d : Char} (hd : d.isDigit = true) (tail : Input) :
    readScalar (minus negative ++ d :: tail) =
      (readNumber negative (d :: tail)).map fun r => (.number r.1, r.2) := by
  cases negative with
  | true =>
    change ((readNumber true (d :: tail)).bind fun r => .ok (Json.number r.1, r.2)) = _
    cases readNumber true (d :: tail) <;> rfl
  | false =>
    have hall : (['n', 't', 'f', '"', '-'].all fun c => !c.isDigit) = true := by decide
    have hne {c : Char} (hc : c ∈ ['n', 't', 'f', '"', '-']) : d ≠ c := by
      rintro rfl
      have hdigit := List.all_eq_true.mp hall d hc
      rw [hd] at hdigit
      cases hdigit
    rw [minus, if_neg Bool.false_ne_true, List.nil_append]
    unfold readScalar
    dsimp only
    rw [if_neg (hne (by decide)), if_neg (hne (by decide)), if_neg (hne (by decide)),
      if_neg (hne (by decide)), if_neg (hne (by decide)), if_pos hd]
    cases readNumber false (d :: tail) <;> rfl

/-- A fraction that is read back is read back whatever follows. -/
theorem exists_readNumber_fraction {negative : Bool} {m : Magnitude}
    (h : (Binary64.finite negative m).ReadsBack) :
    ∃ d tail, (NumberLayout.json.set (.finite negative m)).toList = minus negative ++ d :: tail ∧
      d.isDigit = true ∧ ∀ rest, Delimited rest →
        readNumber negative (d :: tail ++ rest) = .ok (.fraction negative m, rest) := by
  have htext := fractionText_setMagnitude m
  obtain ⟨significand, exponent, hread⟩ := htext.exists_readNumber
  obtain ⟨d, tail, hcons, hd⟩ := htext.exists_cons
  have hset : (NumberLayout.json.set (.finite negative m)).toList = minus negative ++ d :: tail := by
    rw [NumberLayout.set, String.toList_ofList, hcons, minus]
  refine ⟨d, tail, hset, hd, fun rest hrest => ?_⟩
  rw [hcons] at hread
  rw [hread negative rest hrest]
  -- The text alone is read as the number, so the fraction that its digits round to is this one.
  have halone := hread negative [] delimited_nil
  rw [List.append_nil] at halone
  unfold Binary64.ReadsBack readText aBinary64 at h
  dsimp only at h
  rw [hset, aNumber_minus _ _ _ hd, halone] at h
  cases hfraction : fractionOf negative significand exponent with
  | error problem =>
    rw [hfraction] at h
    cases h
  | ok n =>
    obtain ⟨m', rfl⟩ := exists_of_fractionOf hfraction
    rw [hfraction] at h
    cases h
    rfl

/-- A number that is read back is read back whatever follows. -/
theorem exists_readNumber_text {n : JsonNumber} (h : n.ReadsBack) :
    ∃ negative d tail, n.text.toList = minus negative ++ d :: tail ∧ d.isDigit = true ∧
      ∀ rest, Delimited rest → readNumber negative (d :: tail ++ rest) = .ok (n, rest) := by
  have hdigits (k : Nat) : ∃ d tail, Nat.toDigits 10 k = d :: tail ∧ d.isDigit = true := by
    obtain ⟨d, tail, hcons⟩ := List.exists_cons_of_ne_nil (Nat.toDigits_ne_nil (b := 10) (n := k))
    exact ⟨d, tail, hcons, isDigit_toDigits k d (hcons ▸ List.mem_cons_self)⟩
  cases n with
  | natural n =>
    obtain ⟨d, tail, hcons, hd⟩ := hdigits n.toNat
    refine ⟨false, d, tail, ?_, hd, fun rest hrest => ?_⟩
    · rw [JsonNumber.text, String.toList_ofList, hcons]
      rfl
    · rw [← hcons, readNumber_toDigits false n.toNat_lt hrest, wholeOf, if_neg Bool.false_ne_true,
        UInt64.ofNat_toNat]
      rfl
  | negative n bounds =>
    obtain ⟨d, tail, hcons, hd⟩ := hdigits n
    refine ⟨true, d, tail, ?_, hd, fun rest hrest => ?_⟩
    · rw [JsonNumber.text, String.toList_ofList, hcons]
      rfl
    · have hlt : n < 2 ^ 64 := Nat.lt_of_le_of_lt bounds.2 (by decide)
      rw [← hcons, readNumber_toDigits true hlt hrest, wholeOf, if_pos rfl, dif_pos bounds]
      rfl
  | fraction negative m =>
    obtain ⟨d, tail, htext, hd, hread⟩ := exists_readNumber_fraction h
    exact ⟨negative, d, tail, htext, hd, hread⟩

theorem takes_aNumber {n : JsonNumber} (h : n.ReadsBack) (wanted : String) :
    (aNumber wanted).Takes 0 (.number n) n := by
  obtain ⟨negative, d, tail, htext, hd, hread⟩ := exists_readNumber_text h
  have hline : line (.number n) = minus negative ++ d :: tail := htext
  refine ⟨?_, fun _ _ hrest => ?_⟩
  · cases negative with
    | true => exact ⟨'-', d :: tail, hline, by decide⟩
    | false =>
      refine ⟨d, tail, hline, not_isSpace_of_isDigit hd, ?_, ?_⟩
      · rintro rfl
        cases hd
      · rintro rfl
        cases hd
  · rw [hline, List.append_assoc, List.cons_append, aNumber_minus _ _ _ hd, ← List.cons_append]
    exact hread _ hrest

theorem takes_aNatural (wanted : String) (n : UInt64) :
    (aNatural wanted).Takes 0 (.number (.natural n)) n := by
  have hnumber := takes_aNumber (n := .natural n) trivial wanted
  refine ⟨hnumber.opens, fun hfuel hdepth hrest => ?_⟩
  unfold aNatural
  rw [hnumber.reads hfuel hdepth hrest]
  rfl

theorem takes_aBinary64 {n : JsonNumber} (h : n.ReadsBack) :
    aBinary64.Takes 0 (.number n) n.toBinary64 := by
  have hnumber := takes_aNumber h "f64"
  refine ⟨hnumber.opens, fun hfuel hdepth hrest => ?_⟩
  unfold aBinary64
  rw [hnumber.reads hfuel hdepth hrest]
  rfl

/-- The reader of values takes a number for what it is. -/
theorem readValue_number {n : JsonNumber} (h : n.ReadsBack) {fuel depth : Nat} {rest : Input}
    (hfuel : 0 < fuel) (hrest : Delimited rest) :
    readValue fuel depth (line (.number n) ++ rest) = .ok (.number n, rest) := by
  obtain ⟨negative, d, tail, htext, hd, hread⟩ := exists_readNumber_text h
  have hline : line (.number n) = minus negative ++ d :: tail := htext
  obtain ⟨fuel, rfl⟩ : ∃ k, fuel = k + 1 := ⟨fuel - 1, by omega⟩
  obtain ⟨c, cs, hcons, hspace, -, hclose⟩ := (takes_aNumber h "f64").opens
  have hscalar : readScalar (line (.number n) ++ rest) = .ok (.number n, rest) := by
    rw [hline, List.append_assoc, List.cons_append, readScalar_minus hd, ← List.cons_append,
      hread _ hrest]
    rfl
  -- A number begins with its sign or with a digit, so it is read as a scalar.
  have hopening : c ≠ '[' ∧ c ≠ '\x7b' := by
    have hhead : c = '-' ∨ c = d := by
      rw [hcons] at hline
      cases negative with
      | true => exact .inl (List.cons.inj hline).1
      | false => exact .inr (List.cons.inj hline).1
    rcases hhead with rfl | rfl
    · decide
    · constructor <;>
      · rintro rfl
        cases hd
  rw [hcons, List.cons_append] at hscalar ⊢
  rw [readValue, skipSpace_cons hspace]
  split
  · next heq => exact absurd (List.cons.inj heq).1 hopening.1
  · next heq => exact absurd (List.cons.inj heq).1 hopening.2
  · exact hscalar

end Json

end Scaffold
