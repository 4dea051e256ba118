import Mathlib.Data.List.DropRight
import Scaffold.Proofs.Number.Numeral
import Scaffold.Source.Python

namespace Scaffold

namespace Text

/-- The characters without those at either end that satisfy `p`. -/
def strip (p : Char → Bool) (cs : List Char) : List Char := (cs.dropWhile p).rdropWhile p

variable {p : Char → Bool}

/-- What is cut from the ends satisfies `p`. -/
theorem exists_eq_strip (p : Char → Bool) (cs : List Char) :
    ∃ before after, cs = before ++ strip p cs ++ after ∧
      (∀ c ∈ before, p c = true) ∧ ∀ c ∈ after, p c = true := by
  refine ⟨cs.takeWhile p, (cs.dropWhile p).rtakeWhile p, ?_, fun c => List.mem_takeWhile_imp,
    fun c => List.mem_rtakeWhile_imp⟩
  rw [List.append_assoc, strip, List.rdropWhile_append_rtakeWhile, List.takeWhile_append_dropWhile]

/-- What is left is what stands between, if nothing in it satisfies `p`. -/
theorem strip_eq {before core after : List Char} (hb : ∀ c ∈ before, p c = true)
    (hc : ∀ c ∈ core, p c = false) (ha : ∀ c ∈ after, p c = true) :
    strip p (before ++ core ++ after) = core := by
  have hstart : (before ++ core ++ after).dropWhile p = (core ++ after).dropWhile p := by
    rw [List.append_assoc, List.dropWhile_append_of_pos hb]
  rw [strip, hstart]
  cases core with
  | nil =>
    rw [List.nil_append, List.dropWhile_eq_nil_iff.mpr ha]
    rfl
  | cons c rest =>
    have hnot (l : List Char) (hl : ∀ d ∈ l, p d = false) : l.dropWhile p = l := by
      rw [List.dropWhile_eq_self_iff]
      intro hlength
      rw [hl _ (List.getElem_mem hlength)]
      exact Bool.false_ne_true
    have hhead : ¬p c = true := by rw [hc c List.mem_cons_self]; exact Bool.false_ne_true
    rw [List.cons_append, List.dropWhile_cons_of_neg hhead, ← List.cons_append, List.rdropWhile,
      List.reverse_append, List.dropWhile_append_of_pos fun d hd => ha d (List.mem_reverse.mp hd),
      hnot _ fun d hd => hc d (List.mem_reverse.mp hd), List.reverse_reverse]

theorem mem_strip_or {c : Char} {cs : List Char} (hc : c ∈ cs) : c ∈ strip p cs ∨ p c = true := by
  obtain ⟨before, after, hsplit, hbefore, hafter⟩ := exists_eq_strip p cs
  rw [hsplit, List.mem_append, List.mem_append] at hc
  rcases hc with (hc | hc) | hc
  · exact .inr (hbefore c hc)
  · exact .inl hc
  · exact .inr (hafter c hc)

/-- It makes no difference to cut by `q` if `q` cuts as much and nothing of what is left. -/
theorem strip_eq_strip {q : Char → Bool} {cs : List Char} (hpq : ∀ c ∈ cs, p c = true → q c = true)
    (hcore : ∀ c ∈ strip p cs, q c = false) : strip q cs = strip p cs := by
  obtain ⟨before, after, hsplit, hbefore, hafter⟩ := exists_eq_strip p cs
  have hmem {c : Char} (hc : c ∈ before ∨ c ∈ after) : c ∈ cs := by
    rw [hsplit, List.mem_append, List.mem_append]
    exact hc.elim (fun h => .inl (.inl h)) .inr
  conv_lhs => rw [hsplit]
  exact strip_eq (fun c hc => hpq c (hmem (.inl hc)) (hbefore c hc)) hcore
    fun c hc => hpq c (hmem (.inr hc)) (hafter c hc)

theorem dropBlankEnd_eq (cs : List Char) : dropBlankEnd cs = cs.rdropWhile isBlank := by
  induction cs with
  | nil => rfl
  | cons c rest ih =>
    unfold dropBlankEnd
    rw [ih, List.rdropWhile, List.rdropWhile, List.reverse_cons, List.dropWhile_append]
    split
    · next hnone =>
      rw [List.reverse_eq_nil_iff] at hnone
      by_cases hc : isBlank c = true <;> simp [hnone, hc]
    · next hsome =>
      have hne : (rest.reverse.dropWhile isBlank).isEmpty = false := by simpa using hsome
      simp [hne]

theorem stripBlanks_eq (cs : List Char) : stripBlanks cs = strip isBlank cs := dropBlankEnd_eq _

/-- The characters of numbers are ASCII, so what is said of them can be checked on each. -/
theorem forall_of_isNumberChar {P : Char → Bool}
    (h : ∀ n < 128, isNumberChar (Char.ofNat n) = true → P (Char.ofNat n) = true) {c : Char}
    (hc : isNumberChar c = true) : P c = true := by
  have hlt : c.toNat < 128 := by
    simp only [isNumberChar, Char.isAlphanum, isAlpha_iff, Char.isDigit, Bool.or_eq_true,
      Bool.and_eq_true, decide_eq_true_eq, beq_iff_eq, UInt32.le_iff_toNat_le, Char.reduceVal,
      UInt32.reduceToNat] at hc
    have hval : c.toNat = c.val.toNat := rfl
    rcases hc with ((hc | rfl) | rfl) | rfl
    · omega
    all_goals decide
  have hchar : Char.ofNat c.toNat = c := Char.ofNat_toNat c
  rw [← hchar] at hc ⊢
  exact h _ hlt hc

theorem isBlank_of_isNumberChar {c : Char} (hc : isNumberChar c = true) : isBlank c = false := by
  have hall := forall_of_isNumberChar (P := fun c => !isBlank c) (by decide) hc
  simpa using hall

end Text

/-- A truth value, or a number behind its sign. -/
inductive Literal where
  | bool (b : Bool)
  | number (negative : Bool) (value : Decimal)
deriving DecidableEq

/-- What a language demands of its literals. -/
structure LiteralSyntax where
  /-- The characters that may stand around a literal. -/
  isLayout : Char → Bool
  /-- The words for the truth values. -/
  spell : Bool → String
  /-- The numerals that the language has. -/
  allows : Numeral → Bool

namespace LiteralSyntax

/-- The literal that a text is, with layout around it. -/
def read? (S : LiteralSyntax) (s : String) : Option Literal :=
  let cs := Text.strip S.isLayout s.toList
  if cs = (S.spell true).toList then some (.bool true)
  else if cs = (S.spell false).toList then some (.bool false)
  else
    let (negative, ds) := takeSign cs
    ((Numeral.read? ds).filter S.allows).map fun n => .number negative n.value

variable {S : LiteralSyntax} {s : String} {minus : Bool} {d : Decimal}

/-- What a language must be like for numbers to be told from what stands around them. -/
structure Lawful (S : LiteralSyntax) : Prop where
  layout : ∀ c, Text.isNumberChar c = true → S.isLayout c = false
  spell : ∀ b, Numeral.read? (takeSign (S.spell b).toList).2 = none

/-- A text of blanks and characters of numbers is a number of the language exactly when all its blanks
are layout and a numeral of the language stands between them. -/
theorem read?_eq_number_iff (hS : S.Lawful) (hs : TokenText s.toList) :
    S.read? s = some (.number minus d) ↔
      (∀ c ∈ s.toList, Text.isBlank c = true → S.isLayout c = true) ∧
        ∃ ds n, takeSign (Text.stripBlanks s.toList) = (minus, ds) ∧ Numeral.read? ds = some n ∧
          S.allows n = true ∧ n.value = d := by
  have hnumber {cs ds : List Char} {n : Numeral} (hsign : takeSign cs = (minus, ds))
      (hread : Numeral.read? ds = some n) : NumberText cs := by
    apply NumberText.of_takeSign
    rw [hsign]
    exact Numeral.numberText_of_read? hread
  rw [Text.stripBlanks_eq]
  constructor
  · intro h
    unfold read? at h
    dsimp only at h
    split at h
    · cases h
    split at h
    · cases h
    obtain ⟨n, hn, hnumeral⟩ := Option.map_eq_some_iff.mp h
    obtain ⟨hread, hallows⟩ := Option.filter_eq_some_iff.mp hn
    obtain ⟨hminus, hd⟩ := Literal.number.injEq .. ▸ hnumeral
    have hsign : takeSign (Text.strip S.isLayout s.toList) =
        (minus, (takeSign (Text.strip S.isLayout s.toList)).2) := Prod.ext hminus rfl
    have hcore := hnumber hsign hread
    -- A character of layout is none of a number, so in this text it is blank. Then all that both take off is the same.
    have hlayout : ∀ c ∈ s.toList, S.isLayout c = true → Text.isBlank c = true := by
      intro c hc hl
      refine (hs c hc).resolve_left fun hn => ?_
      rw [hS.layout c hn] at hl
      cases hl
    have hstrip := Text.strip_eq_strip hlayout fun c hc => Text.isBlank_of_isNumberChar (hcore c hc)
    refine ⟨fun c hc hb => (Text.mem_strip_or hc).resolve_left fun hm => ?_, _, n, hstrip ▸ hsign,
      hread, hallows, hd⟩
    rw [Text.isBlank_of_isNumberChar (hcore c hm)] at hb
    cases hb
  · rintro ⟨hlayout, ds, n, hsign, hread, hallows, rfl⟩
    have hstrip := Text.strip_eq_strip hlayout fun c hc => hS.layout c (hnumber hsign hread c hc)
    -- A text that is read as a number is not the word for a truth value.
    have hspell (b : Bool) : Text.strip Text.isBlank s.toList ≠ (S.spell b).toList := by
      intro heq
      have hnone := hS.spell b
      rw [← heq, hsign, hread] at hnone
      cases hnone
    simp only [read?, hstrip, hspell, if_false, hsign, hread, Option.filter_some, hallows, if_true,
      Option.map_some]

end LiteralSyntax

/-- The literals of Python, as they stand in a call. Lines may end inside a call. -/
def Python.literals : LiteralSyntax where
  isLayout c := [' ', '\t', '\n', '\r', '\x0c'].contains c
  spell := boolLiteral
  allows := Numeral.isPython

/-- The literals of ECMAScript. Its layout is white space without the control character `NEL`, but
with the mark for the order of bytes. -/
def TypeScript.literals : LiteralSyntax where
  isLayout c := (Text.isBlank c && c != '\u0085') || c == '\ufeff'
  spell := boolText
  allows := Numeral.isScript

theorem Python.lawful_literals : literals.Lawful where
  layout c hc := by
    have hall := Text.forall_of_isNumberChar (P := fun c => !literals.isLayout c) (by decide) hc
    simpa using hall
  spell := by decide

theorem TypeScript.lawful_literals : literals.Lawful where
  layout c hc := by
    have hall := Text.forall_of_isNumberChar (P := fun c => !literals.isLayout c) (by decide) hc
    simpa using hall
  spell := by decide

end Scaffold
