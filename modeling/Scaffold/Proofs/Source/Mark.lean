namespace Scaffold

/-- What a lexer writes down. -/
inductive Mark where
  /-- A character of code. -/
  | code (c : Char)
  /-- A literal, without the text in it. -/
  | text
  /-- A character of an expression inside a literal, or one of the braces around it. -/
  | field (c : Char)
deriving DecidableEq, Repr

namespace Mark

/-- Whether the mark is a character of code with this property. -/
def isCode (p : Char → Bool) : Mark → Bool
  | code c => p c
  | _ => false

/-- Whether the mark leaves a line blank. -/
def isSpace : Mark → Bool := isCode fun c => c == ' ' || c == '\t'

/-- The character that is read; for a literal, the quote that it began with. -/
def char : Mark → Char
  | code c => c
  | text => '"'
  | field c => c

/-- Code as marks. -/
def ofCode (s : String) : List Mark := s.toList.map code

/-- The lines of code that are not blank, where `isBreak` says which characters end a line. -/
def codeLines (isBreak : Char → Bool) (ms : List Mark) : List (List Mark) :=
  (ms.splitOnP (isCode isBreak)).filter fun line => !line.all isSpace

/-- A line that is empty does not show. -/
theorem codeLines_break {isBreak : Char → Bool} {c : Char} (hc : isBreak c = true)
    (ms : List Mark) : codeLines isBreak (code c :: ms) = codeLines isBreak ms := by
  have hb : isCode isBreak (code c) = true := hc
  simp only [codeLines, List.splitOnP_cons_eq_if_modifyHead, hb, if_true, List.filter_cons, List.all_nil,
    Bool.not_true, Bool.false_eq_true, if_false]

/-- No number of empty lines shows. -/
theorem codeLines_replicate_break {isBreak : Char → Bool} {c : Char} (hc : isBreak c = true)
    (n : Nat) (ms : List Mark) :
    codeLines isBreak (List.replicate n (code c) ++ ms) = codeLines isBreak ms := by
  induction n with
  | zero => rfl
  | succ n ih => rw [List.replicate_succ, List.cons_append, codeLines_break hc, ih]

end Mark

end Scaffold
