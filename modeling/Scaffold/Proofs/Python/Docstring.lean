import Scaffold.Proofs.Text.Backslash
import Scaffold.Proofs.Text.LineEnd
import Scaffold.Proofs.Text.StringLiteral

namespace Scaffold.Python

open Text (pushChar slashRun Guarded docstringChar docstringBody joinReturns isControl isWideLineEnd)

/-- The character of an escape by one letter or mark. -/
def escapedChar? : Char → Option Char
  | '\\' => some '\\'
  | '\'' => some '\''
  | '"' => some '"'
  | 'a' => some '\x07'
  | 'b' => some '\x08'
  | 'f' => some '\x0c'
  | 'n' => some '\n'
  | 'r' => some '\r'
  | 't' => some '\t'
  | 'v' => some '\x0b'
  | _ => none

/-- Reads the body of a literal between triple double quotes, and answers the text with what stands behind
the closing quotes. A backslash at the end of a line joins it with the next. Carriage returns that stand
for themselves and escapes by name, by octal digits and by two or eight hexadecimal ones are not read. -/
def readDocstring? : List Char → Option (List Char × List Char)
  | [] => none
  | '"' :: '"' :: '"' :: rest => some ([], rest)
  | '\\' :: '\n' :: rest => readDocstring? rest
  | '\\' :: 'u' :: x :: y :: z :: w :: rest =>
    match Json.hexUnit? x y z w with
    | some n => if n.isValidChar then pushChar (Char.ofNat n) (readDocstring? rest) else none
    | none => none
  | '\\' :: e :: rest =>
    match escapedChar? e with
    | some c => pushChar c (readDocstring? rest)
    | none => none
  | c :: rest => if c ≠ '\\' ∧ c ≠ '\r' then pushChar c (readDocstring? rest) else none

variable {c : Char}

theorem readDocstring?_plain (hquote : c ≠ '"') (hslash : c ≠ '\\') (hreturn : c ≠ '\r')
    (tail : List Char) : readDocstring? (c :: tail) = pushChar c (readDocstring? tail) := by
  rw [readDocstring?.eq_6 c tail (fun _ h => absurd h hquote) (fun _ h => absurd h hslash)
    (fun _ _ _ _ _ h => absurd h hslash) (fun _ _ h => absurd h hslash), if_pos ⟨hslash, hreturn⟩]

theorem readDocstring?_escape {e : Char} (h : escapedChar? e = some c) (tail : List Char) :
    readDocstring? ('\\' :: e :: tail) = pushChar c (readDocstring? tail) := by
  have hfeed : e ≠ '\n' := by
    rintro rfl
    cases h
  have hunit : e ≠ 'u' := by
    rintro rfl
    cases h
  rw [readDocstring?.eq_5 e tail hfeed (fun _ _ _ _ _ h => absurd h hunit), h]

theorem readDocstring?_hexEscape (h : c.toNat < 0x10000) (tail : List Char) :
    readDocstring? (Text.hexEscape c.toNat ++ tail) = pushChar c (readDocstring? tail) := by
  have hunit := Text.hexUnit?_digitChar h
  have hvalid : c.toNat.isValidChar := c.valid
  simp only [Text.hexEscape, List.cons_append, List.nil_append, readDocstring?, hunit, hvalid, if_true,
    Char.ofNat_toNat]

theorem toNat_lt_of_isControl (h : (isControl c || isWideLineEnd c) = true) : c.toNat < 0x10000 := by
  rw [Bool.or_eq_true] at h
  rcases h with h | h
  · simp only [isControl, Bool.or_eq_true, Bool.and_eq_true, decide_eq_true_eq] at h
    omega
  · simp only [isWideLineEnd, Bool.or_eq_true, decide_eq_true_eq] at h
    rcases h with (rfl | rfl) | rfl <;> decide

/-- A character is read back from what it is written as, unless it is a carriage return that stands for
itself. -/
theorem readDocstring?_docstringChar (c : Char) (tail : List Char) :
    readDocstring? (docstringChar c ++ tail) = pushChar c (readDocstring? tail) := by
  unfold docstringChar
  split
  · next h =>
    subst h
    exact readDocstring?_escape rfl tail
  split
  · next h =>
    subst h
    exact readDocstring?_escape rfl tail
  split
  · next hslash hquote h =>
    have hreturn : c ≠ '\r' := by
      rintro rfl
      cases h
    exact readDocstring?_plain hquote hslash hreturn tail
  split
  · next h =>
    subst h
    exact readDocstring?_escape rfl tail
  split
  · next h => exact readDocstring?_hexEscape (toNat_lt_of_isControl h) tail
  · next hslash hquote _ hreturn _ => exact readDocstring?_plain hquote hslash hreturn tail

theorem readDocstring?_flatMap (cs rest : List Char) :
    readDocstring? (cs.flatMap docstringChar ++ '"' :: '"' :: '"' :: rest) = some (cs, rest) := by
  induction cs with
  | nil => rfl
  | cons c cs ih =>
    rw [List.flatMap_cons, List.append_assoc, readDocstring?_docstringChar, ih]
    rfl

theorem guarded_docstringChar (c : Char) : Guarded '"' (docstringChar c) := by
  rcases Text.docstringChar_cases c with ⟨hc, hquote, hslash, -⟩ | hescape
  · rw [hc]
    exact .singleton hslash hquote
  · exact .escape (by decide) rfl hescape

/-- The only control characters that stand for themselves are the line feed and the tab. -/
theorem isControl_of_mem_docstringChar {d : Char} (h : d ∈ docstringChar c) (hd : isControl d = true) :
    d = '\n' ∨ d = '\t' := by
  have hdigit : ∀ k < 16, isControl (Nat.digitChar k) = false := by decide
  have hnone (cs : List Char) (hcs : cs.all (fun d => !isControl d) = true) (hmem : d ∈ cs) :
      d = '\n' ∨ d = '\t' := by
    have hfalse := List.all_eq_true.mp hcs d hmem
    rw [hd] at hfalse
    cases hfalse
  unfold docstringChar at h
  split at h
  · exact hnone _ (by decide) h
  split at h
  · exact hnone _ (by decide) h
  split at h
  · next hkept =>
    rw [List.mem_singleton.mp h]
    simpa only [Bool.or_eq_true, decide_eq_true_eq] using hkept
  split at h
  · exact hnone _ (by decide) h
  split at h
  · refine hnone _ ?_ h
    simp only [Text.hexEscape, List.all_cons, List.all_nil, hdigit _ (Nat.mod_lt _ (by decide))]
    decide
  · next hother =>
    rw [List.mem_singleton.mp h] at hd
    rw [hd] at hother
    exact absurd rfl hother

/-- A docstring is faithful. Between triple quotes its body is read as the text with each carriage return
and line feed made one line feed, up to the closing quotes; every quote in it stands behind an odd run of
backslashes, and the run at its end is even; of the control characters it has line feeds and tabs only,
and it has no line end beyond ASCII. -/
theorem docstring_faithful (s : String) :
    (∀ rest, readDocstring? ((docstringBody s).toList ++ '"' :: '"' :: '"' :: rest) =
      some (joinReturns s.toList, rest)) ∧
    (∀ before after, (docstringBody s).toList = before ++ '"' :: after → slashRun before % 2 = 1) ∧
    slashRun (docstringBody s).toList % 2 = 0 ∧
    ∀ c ∈ (docstringBody s).toList,
      (isControl c = true → c = '\n' ∨ c = '\t') ∧ isWideLineEnd c = false := by
  have hbody : (docstringBody s).toList = (joinReturns s.toList).flatMap docstringChar := by
    rw [docstringBody, String.toList_ofList]
  have hguarded : Guarded '"' (docstringBody s).toList :=
    hbody ▸ Guarded.flatMap guarded_docstringChar (joinReturns s.toList)
  refine ⟨fun rest => ?_, fun before after h => hguarded.odd_slashRun h, hguarded.even_slashRun,
    fun c hc => ⟨fun hcontrol => ?_, ?_⟩⟩
  · rw [hbody, readDocstring?_flatMap]
  · rw [hbody] at hc
    obtain ⟨d, -, hd⟩ := List.mem_flatMap.mp hc
    exact isControl_of_mem_docstringChar hd hcontrol
  · have hstray := Text.clean_docstringBody s c hc
    exact (Bool.or_eq_false_iff.mp hstray).2

end Scaffold.Python
