import Scaffold.Pattern.Estimate
import Scaffold.Proofs.Source.FreeText
import Scaffold.Proofs.Source.Literal
import Scaffold.Source.TypeScript

/-!
Defaults of numbers and truth values as literals. Validation reads the text of a default without the
blanks around it, while source shows the text as it stands, so the two can part over a blank that is no
layout, over a word for a number that is not finite and over zeros in front. They part over nothing else.
-/

namespace Scaffold

/-- The integer that a default is read as. -/
def DefaultValue.integer? : DefaultValue → Option Int
  | bool _ => none
  | number n => n.integer?
  | string s => readInteger? (Text.trim s)

/-- Whether a literal of a type stands for a default. Numbers are compared as floating point numbers,
where one that is too great is an infinity; integers are compared exactly. -/
def Literal.Denotes (v : DefaultValue) : ParamType → Literal → Prop
  | .boolean, .bool b => v.raw = boolText b
  | .number, .number minus d =>
    Binary64.read? (Text.trim v.raw) = some (.ofDecimal minus d.digits d.exponent)
  | .integer, .number minus d =>
    d.exponent = 0 ∧ v.integer? = some (if minus then -(d.digits : Int) else d.digits)
  | _, _ => False

/-- The text of a number without the blanks around it and the sign in front. -/
def unsignedText (s : String) : List Char := (takeSign (Text.stripBlanks s.toList)).2

/-- A number that Python reads as it stands. -/
structure Python.Writable (s : String) : Prop where
  layout : ∀ c ∈ s.toList, Text.isBlank c = true → c ∈ [' ', '\t', '\n', '\r', '\x0c']
  finite : Numeral.isWord (unsignedText s) = false
  /-- Digits alone do not begin with a zero, unless all of them are zeros. -/
  zeros : ¬(Numeral.isPadded (unsignedText s) = true ∧ (unsignedText s).all Char.isDigit = true ∧
    ∃ c ∈ unsignedText s, c ≠ '0')

/-- A number that ECMAScript reads as it stands. -/
structure TypeScript.Writable (s : String) : Prop where
  layout : '\u0085' ∉ s.toList
  finite : Numeral.isWord (unsignedText s) = false
  zeros : Numeral.isPadded (unsignedText s) = false

/-- A default whose text may be a number. It is one unless it is a word, and as one it stands for the
default. -/
structure DefaultValue.IsNumeral (v : DefaultValue) (type : ParamType) : Prop where
  tokenText : TokenText v.raw.toList
  exists_read? : Numeral.isWord (unsignedText v.raw) = false →
    ∃ n, Numeral.read? (unsignedText v.raw) = some n
  denotes : ∀ n, Numeral.read? (unsignedText v.raw) = some n →
    Literal.Denotes v type (.number (takeSign (Text.stripBlanks v.raw.toList)).1 n.value)

theorem numberText_boolText (b : Bool) : NumberText (boolText b).toList := by
  cases b <;> exact numberText_of_all (by decide)

/-- The text of a number holds no blank. -/
theorem NumberText.not_isBlank {cs : List Char} (h : NumberText cs) {c : Char} (hc : c ∈ cs) :
    ¬Text.isBlank c = true := by
  rw [Text.isBlank_of_isNumberChar (h c hc)]
  exact Bool.false_ne_true

theorem Text.stripBlanks_of_numberText {cs : List Char} (h : NumberText cs) : stripBlanks cs = cs := by
  have hcore := strip_eq (p := isBlank) (List.forall_mem_nil _)
    (fun c hc => isBlank_of_isNumberChar (h c hc)) (List.forall_mem_nil _)
  rwa [List.nil_append, List.append_nil, ← stripBlanks_eq] at hcore

/-- What is read as a number of floating point, is read from the text without blanks and sign. -/
theorem Binary64.read?_trim (s : String) :
    Binary64.read? (Text.trim s) =
      readUnsigned? (takeSign (Text.stripBlanks s.toList)).1 (unsignedText s) := by
  rw [Binary64.read?, Text.trim, String.toList_ofList]
  rfl

/-- What is read as an integer is digits behind a sign. -/
theorem exists_of_readInteger? {s : String} {i : Int} (h : readInteger? s = some i) :
    ∃ minus ds, takeSign s.toList = (minus, ds) ∧ ds ≠ [] ∧ ds.all Char.isDigit = true ∧
      i = if minus then -(digitsValue ds : Int) else digitsValue ds := by
  unfold readInteger? at h
  cases hsign : takeSign s.toList with
  | mk minus ds =>
    simp only [hsign] at h
    split at h
    · cases h
    · next hds =>
      rw [Bool.or_eq_true, not_or, List.isEmpty_iff, Bool.not_eq_true', Bool.not_eq_false] at hds
      rw [Option.ite_none_right_eq_some] at h
      exact ⟨minus, ds, rfl, hds.1, hds.2, (Option.some.inj h.2).symm⟩

theorem Literal.denotes_number {v : DefaultValue} {n : Numeral}
    (h : Numeral.read? (unsignedText v.raw) = some n) :
    Literal.Denotes v .number (.number (takeSign (Text.stripBlanks v.raw.toList)).1 n.value) := by
  rw [Literal.Denotes, Binary64.read?_trim, Numeral.readUnsigned?_eq (Numeral.isWord_of_read? h), h]
  rfl

theorem JsonNumber.exists_read?_unsignedText (n : JsonNumber) :
    ∃ m, Numeral.read? (unsignedText n.text) = some m ∧ m.isScript = true := by
  rw [unsignedText, Text.stripBlanks_of_numberText n.numberText_text]
  exact n.exists_read?_text

variable {v : DefaultValue} {type : ParamType} {c : Constraints}

/-- A default that is an integer by its digits is a numeral and stands for itself. -/
theorem DefaultValue.IsNumeral.of_digits {minus : Bool} {ds : List Char} (htoken : TokenText v.raw.toList)
    (hsign : takeSign (Text.stripBlanks v.raw.toList) = (minus, ds)) (hne : ds ≠ [])
    (hds : ds.all Char.isDigit = true)
    (hi : v.integer? = some (if minus then -(digitsValue ds : Int) else digitsValue ds)) :
    v.IsNumeral .integer := by
  have htext : unsignedText v.raw = ds := by rw [unsignedText, hsign]
  have hread : Numeral.read? (unsignedText v.raw) = some ⟨ds, none, none⟩ := by
    rw [htext, Numeral.read?_of_all_isDigit hne hds]
  refine ⟨htoken, fun _ => ⟨_, hread⟩, fun n hn => ?_⟩
  obtain rfl := Option.some.inj (hread.symm.trans hn)
  rw [hsign, Literal.Denotes]
  simpa [Numeral.value] using hi

/-- The type of a number takes numbers and text that is read as one. -/
theorem DefaultValue.Suits.of_isNumeric (h : v.Suits c type) (ht : type.isNumeric = true) :
    (∃ n, v = .number n) ∨ ∃ s, v = .string s ∧
      ((∃ x, Binary64.read? (Text.trim s) = some x) ∨ ∃ i, readInteger? (Text.trim s) = some i) := by
  cases h with
  | text h => cases type <;> cases ht <;> cases h
  | number n => exact .inl ⟨n, rfl⟩
  | numberText h => exact .inr ⟨_, rfl, .inl h⟩
  | integer h => exact .inl ⟨_, rfl⟩
  | integerText h => exact .inr ⟨_, rfl, .inr h⟩
  | bool b => cases ht
  | boolText h => cases ht
  | date h => cases ht
  | choice h => cases ht

/-- A default that suits the type of a number is a numeral or a word. -/
theorem DefaultValue.Suits.isNumeral (h : v.Suits c type) (ht : type.isNumeric = true) :
    v.IsNumeral type := by
  have htype : type = .number ∨ type = .integer := by
    cases type <;> first | exact .inl rfl | exact .inr rfl | cases ht
  rcases htype with rfl | rfl
  · cases h with
    | text h => cases h
    | number n =>
      obtain ⟨m, hm, -⟩ := n.exists_read?_unsignedText
      exact ⟨n.numberText_text.tokenText, fun _ => ⟨m, hm⟩, fun _ => Literal.denotes_number⟩
    | @numberText s h =>
      obtain ⟨x, h⟩ := h
      refine ⟨tokenText_of_trim (Binary64.numberText_of_read? h), fun hword => ?_,
        fun _ => Literal.denotes_number⟩
      rw [DefaultValue.raw] at hword ⊢
      rw [Binary64.read?_trim, Numeral.readUnsigned?_eq hword] at h
      obtain ⟨n, hn, -⟩ := Option.map_eq_some_iff.mp h
      exact ⟨n, hn⟩
  · cases h with
    | text h => cases h
    | @integer n h =>
      obtain ⟨i, hi⟩ := JsonNumber.exists_integer? h
      obtain ⟨minus, k, hsign, hk⟩ := JsonNumber.takeSign_text hi
      rw [← Text.stripBlanks_of_numberText n.numberText_text] at hsign
      refine .of_digits n.numberText_text.tokenText hsign Nat.toDigits_ne_nil
        (List.all_eq_true.mpr (isDigit_toDigits k)) ?_
      rw [digitsValue_toDigits, ← hk]
      exact hi
    | @integerText s h =>
      obtain ⟨i, hi⟩ := h
      obtain ⟨minus, ds, hsign, hne, hds, hvalue⟩ := exists_of_readInteger? hi
      rw [Text.trim, String.toList_ofList] at hsign
      refine .of_digits (tokenText_of_trim (numberText_of_readInteger? hi)) hsign hne hds ?_
      rw [← hvalue]
      exact hi

/-- A default that may be a number is a literal of a language that stands for it exactly when its
blanks are layout and it is a numeral that the language has. -/
theorem DefaultValue.IsNumeral.exists_denotes_iff (h : v.IsNumeral type) (ht : type.isNumeric = true)
    {S : LiteralSyntax} (hS : S.Lawful) :
    (∃ l, S.read? v.raw = some l ∧ l.Denotes v type) ↔
      (∀ c ∈ v.raw.toList, Text.isBlank c = true → S.isLayout c = true) ∧
        ∃ n, Numeral.read? (unsignedText v.raw) = some n ∧ S.allows n = true := by
  constructor
  · rintro ⟨l, hread, hdenotes⟩
    cases l with
    | bool b => cases type <;> cases ht <;> cases hdenotes
    | number minus d =>
      obtain ⟨hlayout, ds, n, hsign, hn, hallows, -⟩ := (S.read?_eq_number_iff hS h.tokenText).mp hread
      refine ⟨hlayout, n, ?_, hallows⟩
      rw [unsignedText, hsign]
      exact hn
  · rintro ⟨hlayout, n, hn, hallows⟩
    refine ⟨_, (S.read?_eq_number_iff hS h.tokenText).mpr ⟨hlayout, _, n, rfl, hn, hallows, rfl⟩, ?_⟩
    exact h.denotes n hn

theorem DefaultValue.IsNumeral.exists_python_iff (h : v.IsNumeral type) (ht : type.isNumeric = true) :
    (∃ l, Python.literals.read? v.raw = some l ∧ l.Denotes v type) ↔ Python.Writable v.raw := by
  rw [h.exists_denotes_iff ht Python.lawful_literals]
  constructor
  · rintro ⟨hlayout, n, hn, hallows⟩
    refine ⟨fun c hc hb => List.contains_iff_mem.mp (hlayout c hc hb), Numeral.isWord_of_read? hn, ?_⟩
    have hzeros : n.isPython = true := hallows
    rw [Numeral.isPython_eq hn] at hzeros
    rintro ⟨hpadded, hdigits, c, hc, hne⟩
    have hany : (unsignedText v.raw).any (· != '0') = true :=
      List.any_eq_true.mpr ⟨c, hc, bne_iff_ne.mpr hne⟩
    rw [hpadded, hdigits, hany] at hzeros
    cases hzeros
  · rintro ⟨hlayout, hfinite, hzeros⟩
    obtain ⟨n, hn⟩ := h.exists_read? hfinite
    refine ⟨fun c hc hb => List.contains_iff_mem.mpr (hlayout c hc hb), n, hn, ?_⟩
    have hpython : n.isPython = true := by
      rw [Numeral.isPython_eq hn]
      by_contra hfalse
      simp only [Bool.not_eq_true', Bool.not_eq_false, Bool.and_eq_true, List.any_eq_true,
        bne_iff_ne] at hfalse
      exact hzeros ⟨hfalse.1.1, hfalse.1.2, hfalse.2⟩
    exact hpython

theorem DefaultValue.IsNumeral.exists_typeScript_iff (h : v.IsNumeral type)
    (ht : type.isNumeric = true) :
    (∃ l, TypeScript.literals.read? v.raw = some l ∧ l.Denotes v type) ↔ TypeScript.Writable v.raw := by
  rw [h.exists_denotes_iff ht TypeScript.lawful_literals]
  constructor
  · rintro ⟨hlayout, n, hn, hallows⟩
    refine ⟨fun hmem => ?_, Numeral.isWord_of_read? hn, ?_⟩
    · exact absurd (hlayout _ hmem (by rfl)) (by decide)
    · have hzeros : n.isScript = true := hallows
      rwa [Numeral.isScript_eq hn, Bool.not_eq_true'] at hzeros
  · rintro ⟨hlayout, hfinite, hzeros⟩
    obtain ⟨n, hn⟩ := h.exists_read? hfinite
    refine ⟨fun c hc hb => ?_, n, hn, ?_⟩
    · have hne : c ≠ '\u0085' := by
        rintro rfl
        exact hlayout hc
      simp [TypeScript.literals, hb, hne]
    · have hscript : n.isScript = true := by rw [Numeral.isScript_eq hn, hzeros, Bool.not_false]
      exact hscript

/-- A number of JSON is written so that every language reads it. -/
theorem JsonNumber.exists_denotes (n : JsonNumber) (h : (DefaultValue.number n).IsNumeral type)
    (ht : type.isNumeric = true) {S : LiteralSyntax} (hS : S.Lawful)
    (hallows : ∀ m : Numeral, m.isScript = true → S.allows m = true) :
    ∃ l, S.read? n.text = some l ∧ l.Denotes (.number n) type := by
  obtain ⟨m, hm, hscript⟩ := n.exists_read?_unsignedText
  exact (h.exists_denotes_iff ht hS).mpr
    ⟨fun c hc hb => absurd hb (n.numberText_text.not_isBlank hc), m, hm, hallows m hscript⟩

theorem Python.writable_boolText (b : Bool) : Writable (boolText b) where
  layout c hc hb := absurd hb ((numberText_boolText b).not_isBlank hc)
  finite := by cases b <;> decide
  zeros h := absurd h.1 (by cases b <;> decide)

theorem TypeScript.writable_boolText (b : Bool) : Writable (boolText b) where
  layout h := absurd (by rfl) ((numberText_boolText b).not_isBlank h)
  finite := by cases b <;> decide
  zeros := by cases b <;> rfl

/-- Whether a default satisfies `P` if it is given as text. -/
def DefaultValue.IfText (P : String → Prop) : DefaultValue → Prop
  | string s => P s
  | _ => True

/-- The default of a number is shown as its text. -/
theorem DefaultValue.Suits.literal_eq (h : v.Suits c type) (ht : type.isNumeric = true)
    (spell : Bool → String) : v.literal type spell = v.raw := by
  have htextual : type.isTextual = false := by cases type <;> first | rfl | cases ht
  have hfloat (b : Bool) : Binary64.read? (Text.trim (Scaffold.boolText b)) = none := by
    cases b <;> rfl
  have hinteger (b : Bool) : readInteger? (Text.trim (Scaffold.boolText b)) = none := by
    cases b <;> rfl
  have hne (b : Bool) : v ≠ .string (Scaffold.boolText b) := by
    rintro rfl
    rcases h.of_isNumeric ht with ⟨n, hn⟩ | ⟨s, hs, hread⟩
    · cases hn
    · cases hs
      rw [hfloat, hinteger] at hread
      rcases hread with ⟨x, hx⟩ | ⟨i, hi⟩
      · cases hx
      · cases hi
  unfold literal
  rw [htextual, if_neg Bool.false_ne_true]
  split
  · rcases h.of_isNumeric ht with ⟨n, hn⟩ | ⟨s, hs, -⟩
    · cases hn
    · cases hs
  · exact absurd rfl (hne true)
  · exact absurd rfl (hne false)
  · rfl

/-- A default is shown as a literal that stands for it, unless it is text that the language does not
read so. -/
theorem DefaultValue.Suits.exists_denotes_iff (h : v.Suits c type)
    (ht : type.isNumeric = true ∨ type = .boolean) {S : LiteralSyntax} (hS : S.Lawful)
    (hallows : ∀ m : Numeral, m.isScript = true → S.allows m = true)
    (hspell : ∀ b, S.read? (S.spell b) = some (.bool b)) {P : String → Prop}
    (hnumeral : ∀ s, (DefaultValue.string s).IsNumeral type → type.isNumeric = true →
      ((∃ l, S.read? s = some l ∧ l.Denotes (.string s) type) ↔ P s))
    (hbool : ∀ b, P (Scaffold.boolText b)) :
    (∃ l, S.read? (v.literal type S.spell) = some l ∧ l.Denotes v type) ↔ v.IfText P := by
  rcases ht with ht | rfl
  · have hn := h.isNumeral ht
    rw [h.literal_eq ht]
    rcases h.of_isNumeric ht with ⟨n, rfl⟩ | ⟨s, rfl, -⟩
    · exact iff_of_true (n.exists_denotes hn ht hS hallows) trivial
    · exact hnumeral s hn ht
  · cases h with
    | text h => cases h
    | bool b => exact iff_of_true ⟨.bool b, hspell b, rfl⟩ trivial
    | @boolText s h =>
      have hs : ∃ b, s = Scaffold.boolText b := h.elim (⟨true, ·⟩) (⟨false, ·⟩)
      obtain ⟨b, rfl⟩ := hs
      refine iff_of_true ⟨.bool b, ?_, rfl⟩ (hbool b)
      cases b <;> exact hspell _

/-- The default is the last check of a parameter that has one. -/
theorem Parameter.default_mem_checks {p : Parameter} (hc : p.constraints = some c)
    (hv : c.default = some v) : Check.default v ∈ p.checks := by
  simp [Parameter.checks, hc, Parameter.omissionChecks, hv]

/-- The defaults of numbers and truth values in an accepted server. Both languages show the text of the
default, and each reads it as a literal that stands for the default exactly when it is not text or text
that the language can write. -/
theorem Server.default_reads_iff [Pattern.SizeLimit] {s : Server} (ha : s.Accepted) {t : Tool}
    (ht : t ∈ s.tools)
    {p : Parameter} (hp : p ∈ t.parameters) (htype : p.type ∈ [.number, .integer, .boolean])
    (hc : p.constraints = some c) (hv : c.default = some v) :
    ("default=" ++ v.literal p.type Python.boolLiteral ∈ (Python.fragment p).parts ∧
        ".default(" ++ v.literal p.type boolText ++ ")" ∈ (TypeScript.fragment p).parts) ∧
      ((∃ l, Python.literals.read? (v.literal p.type Python.boolLiteral) = some l ∧ l.Denotes v p.type) ↔
        v.IfText Python.Writable) ∧
      ((∃ l, TypeScript.literals.read? (v.literal p.type boolText) = some l ∧ l.Denotes v p.type) ↔
        v.IfText TypeScript.Writable) := by
  obtain ⟨limits, hs⟩ := ha.valid
  have hsuits : v.Suits c p.type :=
    (((hs.tools_valid t ht).parameters_valid p hp).consistent c hc).default_suits v hv
  have hkind : p.type.isNumeric = true ∨ p.type = .boolean := by
    simp only [List.mem_cons, List.not_mem_nil, or_false] at htype
    rcases htype with h | h | h <;> simp [h, ParamType.isNumeric]
  have hcheck := Parameter.default_mem_checks hc hv
  refine ⟨⟨?_, ?_⟩, ?_, ?_⟩
  · exact Python.mem_parts_iff.mpr ⟨_, hcheck, rfl⟩
  · refine TypeScript.mem_parts_iff.mpr ⟨_, hcheck, ?_⟩
    have hdate : p.type ≠ .date := by
      intro h
      rw [h] at hkind
      exact absurd hkind (by decide)
    rw [TypeScript.call, TypeScript.defaultCall, if_neg hdate]
  · exact hsuits.exists_denotes_iff hkind Python.lawful_literals
      (fun _ => Numeral.isPython_of_isScript) (by decide) (fun _ hn => hn.exists_python_iff)
      Python.writable_boolText
  · exact hsuits.exists_denotes_iff hkind TypeScript.lawful_literals (fun _ h => h) (by decide +kernel)
      (fun _ hn => hn.exists_typeScript_iff) TypeScript.writable_boolText

/-- A server whose one parameter is a number with this default. -/
def Server.withDefault (text : String) : Server where
  name := "server"
  description := "numbers"
  language := .python
  tools := [{
    name := "scale"
    description := "a tool"
    parameters := [{
      name := "factor"
      type := .number
      description := "a number"
      constraints := some { default := some (.string text) } }] }]

/-- A fraction may be padded with zeros in Python, but not in ECMAScript. -/
theorem Server.default_reads_padded :
    (∃ l, Python.literals.read? "00.5" = some l ∧ l.Denotes (.string "00.5") .number) ∧
      ¬∃ l, TypeScript.literals.read? "00.5" = some l ∧ l.Denotes (.string "00.5") .number := by
  have hliteral (spell : Bool → String) :
      (DefaultValue.string "00.5").literal .number spell = "00.5" := rfl
  obtain ⟨-, hpython, hscript⟩ := Server.default_reads_iff (s := withDefault "00.5")
    ⟨{}, by rfl⟩ List.mem_cons_self List.mem_cons_self List.mem_cons_self rfl rfl
  simp only [hliteral] at hpython hscript
  have hnumber : NumberText "00.5".toList := numberText_of_all (by decide)
  have hpadded : Numeral.isPadded (unsignedText "00.5") = true := by rfl
  refine ⟨hpython.mpr ⟨fun c hc hb => absurd hb (hnumber.not_isBlank hc), by rfl, ?_⟩, ?_⟩
  · -- The point keeps the zeros in front from being digits alone.
    intro h
    exact absurd h.2.1 (by decide)
  · intro h
    have hunpadded := (hscript.mp h).zeros
    rw [hpadded] at hunpadded
    cases hunpadded

/-- So not every default that validation lets pass is a literal: `nan` is a name in both languages. -/
theorem Server.not_forall_default_reads :
    ¬ ∀ s : Server, s.Accepted → ∀ t ∈ s.tools, ∀ p ∈ t.parameters,
      p.type ∈ [.number, .integer, .boolean] → ∀ c ∈ p.constraints, ∀ v ∈ c.default,
        (∃ l, Python.literals.read? (v.literal p.type Python.boolLiteral) = some l ∧
            l.Denotes v p.type) ∧
          ∃ l, TypeScript.literals.read? (v.literal p.type boolText) = some l ∧ l.Denotes v p.type := by
  intro h
  obtain ⟨⟨l, hread, -⟩, -⟩ := h (withDefault "nan") ⟨{}, by rfl⟩ _ List.mem_cons_self _
    List.mem_cons_self List.mem_cons_self _ rfl _ rfl
  have hnone : Python.literals.read? "nan" = none := by rfl
  change Python.literals.read? "nan" = some l at hread
  rw [hnone] at hread
  cases hread

end Scaffold
