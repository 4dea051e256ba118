import Scaffold.Proofs.Json.Token
import Scaffold.Proofs.Text.Quoted

namespace Scaffold.Text

/-- The character of an escape by one letter or mark. -/
def namedEscape? : Char → Option Char
  | '"' => some '"'
  | '\\' => some '\\'
  | 'b' => some '\x08'
  | 'f' => some '\x0c'
  | 'n' => some '\n'
  | 'r' => some '\r'
  | 't' => some '\t'
  | _ => none

/-- A character that may stand in a literal, whether for itself or in an escape. -/
def isLiteralChar (c : Char) : Bool := 0x20 ≤ c.toNat && !isLineEnd c

/-- The body of a literal and the text that it spells. -/
inductive Spells : List Char → List Char → Prop
  | nil : Spells [] []
  | plain {c : Char} {body text : List Char} (hc : isLiteralChar c = true) (hquote : c ≠ '"')
      (hslash : c ≠ '\\') (h : Spells body text) : Spells (c :: body) (c :: text)
  | named {e c : Char} {body text : List Char} (he : namedEscape? e = some c) (h : Spells body text) :
      Spells ('\\' :: e :: body) (c :: text)
  /-- A character by its code point. No half of a surrogate pair is one. -/
  | unit {x y z w : Char} {n : Nat} {body text : List Char} (hn : Json.hexUnit? x y z w = some n)
      (hvalid : n.isValidChar) (h : Spells body text) :
      Spells ('\\' :: 'u' :: x :: y :: z :: w :: body) (Char.ofNat n :: text)

/-- Puts a character in front of the text that was read. -/
def pushChar (c : Char) : Option (List Char × List Char) → Option (List Char × List Char) :=
  Option.map fun (text, rest) => (c :: text, rest)

/-- Reads the body of a literal up to the first quote that no backslash takes, and answers the text with
what stands behind the quote. -/
def readBody? : List Char → Option (List Char × List Char)
  | [] => none
  | '"' :: rest => some ([], rest)
  | '\\' :: 'u' :: x :: y :: z :: w :: rest =>
    match Json.hexUnit? x y z w with
    | some n => if n.isValidChar then pushChar (Char.ofNat n) (readBody? rest) else none
    | none => none
  | '\\' :: e :: rest =>
    match namedEscape? e with
    | some c => pushChar c (readBody? rest)
    | none => none
  | c :: rest => if isLiteralChar c ∧ c ≠ '\\' then pushChar c (readBody? rest) else none

theorem namedEscape?_cases {e c : Char} (h : namedEscape? e = some c) :
    e ∈ ['"', '\\', 'b', 'f', 'n', 'r', 't'] := by
  unfold namedEscape? at h
  split at h
  all_goals first | decide | cases h

/-- A literal is read as the text that its body spells, up to the quote behind it. -/
theorem Spells.readBody?_eq {body text : List Char} (h : Spells body text) (rest : List Char) :
    readBody? (body ++ '"' :: rest) = some (text, rest) := by
  induction h with
  | nil => rfl
  | @plain c body text hc hquote hslash _ ih =>
    rw [List.cons_append, readBody?.eq_5 c _ hquote (fun _ _ _ _ _ h => absurd h hslash)
      fun _ _ h => absurd h hslash, if_pos ⟨hc, hslash⟩, ih]
    rfl
  | @named e c body text he _ ih =>
    have hu : e ≠ 'u' := by
      rintro rfl
      cases he
    rw [List.cons_append, List.cons_append, readBody?.eq_4 e _ (fun _ _ _ _ _ h => absurd h hu), he, ih]
    rfl
  | unit hn hvalid _ ih =>
    simp only [List.cons_append, readBody?, hn, hvalid, if_true, ih]
    rfl

theorem pushChar_eq_some {c : Char} {r : Option (List Char × List Char)} {text rest : List Char}
    (h : pushChar c r = some (text, rest)) : ∃ tail, text = c :: tail ∧ r = some (tail, rest) := by
  obtain ⟨⟨tail, after⟩, hr, he⟩ := Option.map_eq_some_iff.mp h
  cases he
  exact ⟨tail, rfl, hr⟩

/-- What is read was spelled, and the quote behind its body is the first that no backslash takes. -/
theorem exists_spells_of_readBody? {cs text rest : List Char} (h : readBody? cs = some (text, rest)) :
    ∃ body, cs = body ++ '"' :: rest ∧ Spells body text := by
  -- Each way the reader goes on adds one piece to a body; the ways it gives up read nothing.
  induction cs using readBody?.induct generalizing text with
  | case1 => cases h
  | case2 tail =>
    cases h
    exact ⟨[], rfl, .nil⟩
  | case3 x y z w tail n hn hvalid ih =>
    simp only [readBody?, hn, hvalid, if_true] at h
    obtain ⟨text, rfl, htail⟩ := pushChar_eq_some h
    obtain ⟨body, rfl, hbody⟩ := ih htail
    exact ⟨'\\' :: 'u' :: x :: y :: z :: w :: body, rfl, .unit hn hvalid hbody⟩
  | case4 x y z w tail n hn hvalid =>
    simp only [readBody?, hn, hvalid, if_false, reduceCtorEq] at h
  | case5 x y z w tail hn =>
    simp only [readBody?, hn, reduceCtorEq] at h
  | case6 e tail hunit c he ih =>
    rw [readBody?.eq_4 e tail hunit, he] at h
    obtain ⟨text, rfl, htail⟩ := pushChar_eq_some h
    obtain ⟨body, rfl, hbody⟩ := ih htail
    exact ⟨'\\' :: e :: body, rfl, .named he hbody⟩
  | case7 e tail hunit he =>
    rw [readBody?.eq_4 e tail hunit, he] at h
    cases h
  | case8 c tail hquote hunit hescape hc ih =>
    rw [readBody?.eq_5 c tail hquote hunit hescape, if_pos hc] at h
    obtain ⟨text, rfl, htail⟩ := pushChar_eq_some h
    obtain ⟨body, rfl, hbody⟩ := ih htail
    exact ⟨c :: body, rfl, .plain hc.1 hquote hc.2 hbody⟩
  | case9 c tail hquote hunit hescape hc =>
    rw [readBody?.eq_5 c tail hquote hunit hescape, if_neg hc] at h
    cases h

/-- Reading undoes spelling. -/
theorem readBody?_eq_some_iff {cs text rest : List Char} :
    readBody? cs = some (text, rest) ↔ ∃ body, cs = body ++ '"' :: rest ∧ Spells body text := by
  refine ⟨exists_spells_of_readBody?, ?_⟩
  rintro ⟨body, rfl, h⟩
  exact h.readBody?_eq rest

/-- So no body spells two texts. -/
theorem Spells.unique {body text text' : List Char} (h : Spells body text) (h' : Spells body text') :
    text = text' := by
  have heq := (h.readBody?_eq []).symm.trans (h'.readBody?_eq [])
  exact congrArg Prod.fst (Option.some.inj heq)

theorem isLiteralChar_of_ascii {c : Char} (hlow : 0x20 ≤ c.toNat) (hhigh : c.toNat < 0x80) :
    isLiteralChar c = true := by
  have hne (d : Char) (hd : d.toNat < 0x20 ∨ 0x80 ≤ d.toNat) : c ≠ d := by
    rintro rfl
    omega
  have hwide : isWideLineEnd c = false := by
    simp [isWideLineEnd, hne '\u0085' (by decide), hne '\u2028' (by decide), hne '\u2029' (by decide)]
  have hend : isLineEnd c = false :=
    (isLineEnd_eq_false_iff c).mpr
      ⟨hne _ (by decide), hne _ (by decide), hne _ (by decide), hne _ (by decide), hwide⟩
  rw [isLiteralChar, hend, Bool.not_false, Bool.and_true]
  exact decide_eq_true hlow

theorem isLiteralChar_of_hexValue? {c : Char} {d : Nat} (h : hexValue? c = some d) :
    isLiteralChar c = true := by
  have hrange : 48 ≤ c.toNat ∧ c.toNat ≤ 102 := by
    simp only [hexValue?, Char.le_def, UInt32.le_iff_toNat_le] at h
    change (if 48 ≤ c.toNat ∧ c.toNat ≤ 57 then _ else if 97 ≤ c.toNat ∧ c.toNat ≤ 102 then _
      else if 65 ≤ c.toNat ∧ c.toNat ≤ 70 then _ else _) = _ at h
    grind
  exact isLiteralChar_of_ascii (by omega) (by omega)

/-- The digits of an escape are hexadecimal ones. -/
theorem isLiteralChar_of_hexUnit? {x y z w : Char} {n : Nat} (h : Json.hexUnit? x y z w = some n) :
    ∀ c ∈ [x, y, z, w], isLiteralChar c = true := by
  simp only [Json.hexUnit?, Option.bind_eq_bind, Option.bind_eq_some_iff] at h
  obtain ⟨_, hx, _, hy, _, hz, _, hw, -⟩ := h
  simp only [List.forall_mem_cons, isLiteralChar_of_hexValue? hx, isLiteralChar_of_hexValue? hy,
    isLiteralChar_of_hexValue? hz, isLiteralChar_of_hexValue? hw, true_and]
  exact List.forall_mem_nil _

/-- Every body stands on one line and has no control characters of ASCII below the space. -/
theorem Spells.isLiteralChar {body text : List Char} (h : Spells body text) :
    ∀ c ∈ body, isLiteralChar c = true := by
  induction h with
  | nil => exact List.forall_mem_nil _
  | plain hc _ _ _ ih => exact List.forall_mem_cons.mpr ⟨hc, ih⟩
  | @named e c body text he _ ih =>
    have hall : (['"', '\\', 'b', 'f', 'n', 'r', 't'].all Text.isLiteralChar) = true := by decide
    have he := List.all_eq_true.mp hall e (namedEscape?_cases he)
    exact List.forall_mem_cons.mpr ⟨rfl, List.forall_mem_cons.mpr ⟨he, ih⟩⟩
  | @unit x y z w n body text hn _ _ ih =>
    have hopen : ∀ c ∈ ['\\', 'u'], Text.isLiteralChar c = true := List.all_eq_true.mp (by decide)
    have hdigits := isLiteralChar_of_hexUnit? hn
    have hbody : ∀ c ∈ ['\\', 'u'] ++ ([x, y, z, w] ++ body), Text.isLiteralChar c = true :=
      List.forall_mem_append.mpr ⟨hopen, List.forall_mem_append.mpr ⟨hdigits, ih⟩⟩
    exact hbody

/-- No character is spelled by nothing. -/
theorem Spells.length_le {body text : List Char} (h : Spells body text) :
    text.length ≤ body.length := by
  induction h with
  | nil => exact Nat.le_refl 0
  | plain _ _ _ _ ih => exact Nat.succ_le_succ ih
  | named _ _ ih | unit _ _ _ ih =>
    simp only [List.length_cons]
    omega

/-- The program's own reader of JSON reads a literal alike. -/
theorem Spells.readChars_eq {body text : List Char} (h : Spells body text) (rest : List Char) :
    Json.readChars (body ++ '"' :: rest) = .ok (text, rest) := by
  induction h with
  | nil => rw [List.nil_append, Json.readChars]
  | plain hc hquote hslash _ ih =>
    have hlow := of_decide_eq_true (Bool.and_eq_true_iff.mp hc).1
    rw [List.cons_append, Json.readChars_plain hquote hslash (Nat.not_lt.mpr hlow), ih, Json.consChar]
  | @named e c body text he _ ih =>
    have hu : e ≠ 'u' := by
      rintro rfl
      cases he
    have hsame : Json.escapedChar? e = some c := by
      rw [← he]
      have hall : (['"', '\\', 'b', 'f', 'n', 'r', 't'].all fun e =>
          Json.escapedChar? e == namedEscape? e) = true := by decide
      exact beq_iff_eq.mp (List.all_eq_true.mp hall e (namedEscape?_cases he))
    rw [List.cons_append, List.cons_append, Json.readChars_escape hu hsame, ih, Json.consChar]
  | @unit x y z w n body text hn hvalid _ ih =>
    have hhalf : Json.isLowSurrogate n = false ∧ Json.isHighSurrogate n = false := by
      simp only [Json.isLowSurrogate, Json.isHighSurrogate, Bool.and_eq_false_iff, decide_eq_false_iff_not]
      rcases hvalid with hvalid | hvalid <;> omega
    simp only [List.cons_append, Json.readChars, hn, hhalf.1, hhalf.2, Bool.false_eq_true, if_false, ih,
      Json.consChar]

theorem hexUnit?_digitChar {n : Nat} (hn : n < 0x10000) :
    Json.hexUnit? (Nat.digitChar (n / 0x1000 % 16)) (Nat.digitChar (n / 0x100 % 16))
      (Nat.digitChar (n / 0x10 % 16)) (Nat.digitChar (n % 16)) = some n := by
  have hdigit : ∀ k < 16, hexValue? (Nat.digitChar k) = some k := by decide
  have hmod (m : Nat) : hexValue? (Nat.digitChar (m % 16)) = some (m % 16) :=
    hdigit _ (Nat.mod_lt m (by decide))
  simp only [Json.hexUnit?, hmod, Option.bind_eq_bind, Option.bind_some, Option.pure_def, Option.some.injEq]
  omega

/-- The escape of a code point spells its character. -/
theorem Spells.hexEscape_append {c : Char} (hc : c.toNat < 0x10000) {body text : List Char}
    (h : Spells body text) : Spells (hexEscape c.toNat ++ body) (c :: text) := by
  have hunit := Spells.unit (hexUnit?_digitChar hc) c.valid h
  rwa [Char.ofNat_toNat] at hunit

/-- Every character is written as something that spells it, whatever is written behind it. -/
theorem Spells.sourceChar_append (c : Char) {body text : List Char} (h : Spells body text) :
    Spells (sourceChar c ++ body) (c :: text) := by
  unfold sourceChar
  split
  · next hwide =>
    have hc : c.toNat < 0x10000 := by
      simp only [isWideLineEnd, Bool.or_eq_true, decide_eq_true_eq] at hwide
      rcases hwide with (rfl | rfl) | rfl <;> decide
    exact h.hexEscape_append hc
  · next hwide =>
    unfold jsonChar
    -- The characters with a letter for their escape come first.
    iterate 7
      split
      · next hc =>
        subst hc
        exact .named rfl h
    split
    · next hlow => exact h.hexEscape_append (Nat.lt_trans hlow (by decide))
    · next hquote hslash _ hf hn hr _ hlow =>
      -- A vertical tab is a control character below the space, so it has been escaped.
      have hv : c ≠ '\x0b' := fun hc => hlow (by rw [hc]; decide)
      have hend := (isLineEnd_eq_false_iff c).mpr ⟨hn, hr, hv, hf, by simpa using hwide⟩
      have hc : Text.isLiteralChar c = true := by
        rw [Text.isLiteralChar, hend, Bool.not_false, Bool.and_true]
        exact decide_eq_true (Nat.not_lt.mp hlow)
      exact .plain hc hquote hslash h

theorem spells_flatMap_sourceChar (cs : List Char) : Spells (cs.flatMap sourceChar) cs := by
  induction cs with
  | nil => exact .nil
  | cons c cs ih => exact ih.sourceChar_append c

theorem toList_quote (s : String) : (quote s).toList = '"' :: (s.toList.flatMap sourceChar ++ ['"']) := by
  rw [quote, String.toList_ofList, quoteWith]

/-- No two texts have the same literal. -/
theorem quote_injective : Function.Injective quote := by
  intro s t h
  have hlists : '"' :: (s.toList.flatMap sourceChar ++ ['"']) =
      '"' :: (t.toList.flatMap sourceChar ++ ['"']) := by
    rw [← toList_quote, ← toList_quote, h]
  have hbody := List.append_cancel_right (List.cons.inj hlists).2
  have hs := spells_flatMap_sourceChar s.toList
  rw [hbody] at hs
  exact String.toList_inj.mp (hs.unique (spells_flatMap_sourceChar t.toList))

/-- Quoting is faithful. The quoted text is a body between two quotes that spells the text and nothing
else; it stands on one line without control characters of ASCII below the space, and it is read back as
the text up to its last quote, by the rules of the shared escapes as by the program's own reader of JSON. -/
theorem quote_faithful (s : String) :
    ∃ body, (quote s).toList = '"' :: (body ++ ['"']) ∧ Spells body s.toList ∧
      (∀ c ∈ (quote s).toList, 0x20 ≤ c.toNat ∧ isLineEnd c = false) ∧
      readBody? (body ++ ['"']) = some (s.toList, []) ∧
      Json.readString (body ++ ['"']) = .ok (s, []) := by
  have hspells := spells_flatMap_sourceChar s.toList
  have hquote := toList_quote s
  refine ⟨_, hquote, hspells, fun c hc => ?_, readBody?_eq_some_iff.mpr ⟨_, rfl, hspells⟩, ?_⟩
  · have hchar : isLiteralChar c = true := by
      rw [hquote, List.mem_cons, List.mem_append, List.mem_singleton] at hc
      rcases hc with rfl | hc | rfl
      · rfl
      · exact hspells.isLiteralChar c hc
      · rfl
    simpa [isLiteralChar] using hchar
  · rw [Json.readString, hspells.readChars_eq []]
    simp only [bind, Except.bind, pure, Except.pure, String.ofList_toList]

/-- A line end beyond ASCII by its escape. -/
def escapeWide (c : Char) : List Char := if isWideLineEnd c then hexEscape c.toNat else [c]

theorem flatMap_escapeWide_eq {cs : List Char} (h : ∀ c ∈ cs, isWideLineEnd c = false) :
    cs.flatMap escapeWide = cs := by
  have hsame : ∀ c ∈ cs, escapeWide c = [c] := fun c hc => by simp [escapeWide, h c hc]
  rw [List.flatMap_congr hsame, List.flatMap_singleton']

theorem flatMap_escapeWide_jsonChar (c : Char) : (jsonChar c).flatMap escapeWide = sourceChar c := by
  by_cases hwide : isWideLineEnd c = true
  · simp only [isWideLineEnd, Bool.or_eq_true, decide_eq_true_eq] at hwide
    rcases hwide with (rfl | rfl) | rfl <;> rfl
  · have hjson : sourceChar c = jsonChar c := if_neg hwide
    rw [← hjson]
    refine flatMap_escapeWide_eq fun d hd => ?_
    have hchar := (Spells.nil.sourceChar_append c).isLiteralChar d (List.mem_append_left [] hd)
    have hend : isLineEnd d = false := by simpa using (Bool.and_eq_true_iff.mp hchar).2
    exact ((isLineEnd_eq_false_iff d).mp hend).2.2.2.2

/-- A text is quoted in two steps that do not meet: it is quoted for JSON, and then every line end beyond
ASCII is escaped, wherever it stands in what was quoted. -/
theorem toList_quote_eq_flatMap (s : String) :
    (quote s).toList = (jsonQuote s).toList.flatMap escapeWide := by
  have hquote : escapeWide '"' = ['"'] := by rfl
  have hjson : (jsonQuote s).toList = '"' :: (s.toList.flatMap jsonChar ++ ['"']) := by
    rw [jsonQuote, String.toList_ofList, quoteWith]
  rw [toList_quote, hjson, List.flatMap_cons, List.flatMap_append, List.flatMap_assoc,
    List.flatMap_singleton, hquote, funext flatMap_escapeWide_jsonChar, List.singleton_append]

end Scaffold.Text
