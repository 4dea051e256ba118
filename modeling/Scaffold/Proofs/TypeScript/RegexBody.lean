import Scaffold.Proofs.Text.Marks
import Scaffold.Proofs.TypeScript.RegexUnits
import Scaffold.Proofs.TypeScript.SourceLines

/-!
What the body of a regular expression literal can do to the slashes around it. The state of the writer is
the parity of the backslashes behind it, so no slash in a body is free and none is taken behind it, whether
the pattern is a regular expression or not. The bodies are the texts that are written as they stand.
-/

namespace Scaffold.TypeScript

open Text (regexBody regexChar regexChars slashRun takesNext marksTaken)

/-- A text that can stand between slashes as it is: it stays on its line, a backslash takes each of its
slashes, and its end takes nothing. `taken` says whether a backslash takes its first character. -/
structure Enclosed (taken : Bool) (cs : List Char) : Prop where
  line : ∀ c ∈ cs, isLineTerminator c = false
  slashes : ∀ status ∈ marksTaken '/' taken cs, status = true
  ends : takesNext taken cs = false

/-- The state in which the writer goes on is the one that the written text leads to. -/
theorem takesNext_regexChar (taken : Bool) (c : Char) :
    takesNext taken (regexChar taken c) = (c == '\\' && !taken) := by
  by_cases hline : isLineTerminator c = true
  · rcases (PatternUnit.isLineTerminator_iff c).mp hline with rfl | rfl | rfl | rfl <;> cases taken <;> rfl
  · rw [PatternUnit.regexChar_of_isLineTerminator taken ((Bool.not_eq_true _).mp hline)]
    split
    · next hslash =>
      obtain ⟨rfl, rfl⟩ : c = '/' ∧ taken = false := by simpa using hslash
      rfl
    · rfl

/-- A slash is written behind a backslash unless one takes it already. -/
theorem marksTaken_regexChar (taken : Bool) (c : Char) :
    ∀ status ∈ marksTaken '/' taken (regexChar taken c), status = true := by
  by_cases hline : isLineTerminator c = true
  · rcases (PatternUnit.isLineTerminator_iff c).mp hline with rfl | rfl | rfl | rfl <;>
      cases taken <;> exact List.forall_mem_nil _
  · rw [PatternUnit.regexChar_of_isLineTerminator taken ((Bool.not_eq_true _).mp hline)]
    split
    · next hslash =>
      obtain ⟨rfl, rfl⟩ : c = '/' ∧ taken = false := by simpa using hslash
      exact List.forall_mem_singleton.mpr rfl
    · next hslash =>
      intro status hstatus
      rw [marksTaken, marksTaken, List.append_nil] at hstatus
      split at hstatus
      · next hc =>
        rw [List.mem_singleton.mp hstatus]
        simpa [hc] using hslash
      · cases hstatus

/-- Whatever is written can stand between slashes as it is. -/
theorem enclosed_regexChars (taken : Bool) (cs : List Char) : Enclosed taken (regexChars taken cs) := by
  induction cs generalizing taken with
  | nil =>
    cases taken with
    | false => exact ⟨List.forall_mem_nil _, List.forall_mem_nil _, rfl⟩
    | true => exact ⟨List.forall_mem_singleton.mpr rfl, List.forall_mem_nil _, rfl⟩
  | cons c rest ih =>
    -- Behind a character the state of the writer is the one that the rest is read in.
    have hnext := takesNext_regexChar taken c
    have hrest := ih (c == '\\' && !taken)
    rw [regexChars]
    constructor
    · exact List.forall_mem_append.mpr ⟨fun d hd => isLineTerminator_of_mem_regexChar hd, hrest.line⟩
    · rw [Text.marksTaken_append, hnext]
      exact List.forall_mem_append.mpr ⟨marksTaken_regexChar taken c, hrest.slashes⟩
    · rw [Text.takesNext_append, hnext]
      exact hrest.ends

/-- What can stand between slashes as it is, is written as it is. -/
theorem Enclosed.regexChars_eq {taken : Bool} {cs : List Char} (h : Enclosed taken cs) :
    regexChars taken cs = cs := by
  induction cs generalizing taken with
  | nil =>
    obtain rfl : taken = false := h.ends
    rfl
  | cons c rest ih =>
    obtain ⟨hc, hline⟩ := List.forall_mem_cons.mp h.line
    obtain ⟨hslash, hslashes⟩ := List.forall_mem_append.mp h.slashes
    have hplain : ¬(c = '/' && !taken) = true := by
      intro hfree
      obtain ⟨rfl, rfl⟩ : c = '/' ∧ taken = false := by simpa using hfree
      exact Bool.false_ne_true (hslash false List.mem_cons_self)
    have hrest : Enclosed (c == '\\' && !taken) rest := ⟨hline, hslashes, h.ends⟩
    rw [regexChars, PatternUnit.regexChar_of_isLineTerminator taken hc, if_neg hplain, List.singleton_append]
    exact congrArg (List.cons c) (ih hrest)

/-- The texts that are written as they are. -/
theorem regexBody_eq_self_iff (pattern : String) :
    regexBody pattern = pattern ↔ Enclosed false pattern.toList := by
  constructor
  · intro h
    have hbody := enclosed_regexChars false pattern.toList
    rwa [← String.toList_ofList (l := regexChars false pattern.toList), ← regexBody, h] at hbody
  · intro h
    rw [regexBody, h.regexChars_eq, String.ofList_toList]

theorem enclosed_regexBody (pattern : String) : Enclosed false (regexBody pattern).toList := by
  rw [regexBody, String.toList_ofList]
  exact enclosed_regexChars false pattern.toList

theorem enclosed_iff (cs : List Char) :
    Enclosed false cs ↔
      (∀ c ∈ cs, c ≠ '\n' ∧ c ≠ '\r' ∧ c ≠ '\u2028' ∧ c ≠ '\u2029') ∧
        (∀ before after, cs = before ++ '/' :: after → slashRun before % 2 = 1) ∧
        slashRun cs % 2 = 0 := by
  have hline (c : Char) :
      isLineTerminator c = false ↔ c ≠ '\n' ∧ c ≠ '\r' ∧ c ≠ '\u2028' ∧ c ≠ '\u2029' := by
    rw [← Bool.not_eq_true, PatternUnit.isLineTerminator_iff, not_or, not_or, not_or]
  have hends : takesNext false cs = false ↔ slashRun cs % 2 = 0 := by
    rw [← Bool.not_eq_true, Text.takesNext_iff_odd_slashRun]
    omega
  constructor
  · intro h
    exact ⟨fun c hc => (hline c).mp (h.line c hc), Text.forall_marksTaken_iff_odd.mp h.slashes, hends.mp h.ends⟩
  · rintro ⟨hlines, hslashes, heven⟩
    exact ⟨fun c hc => (hline c).mpr (hlines c hc), Text.forall_marksTaken_iff_odd.mpr hslashes, hends.mpr heven⟩

/-- A body never ends its line or its literal, whatever text it is made from: it holds no line terminator,
an odd run of backslashes stands before each of its slashes, and the run at its end is even. A body is its
own body, and the texts of this kind are the only ones that are written as they are. -/
theorem regexBody_enclosed (pattern : String) :
    (∀ c ∈ (regexBody pattern).toList, c ≠ '\n' ∧ c ≠ '\r' ∧ c ≠ '\u2028' ∧ c ≠ '\u2029') ∧
      (∀ before after, (regexBody pattern).toList = before ++ '/' :: after → slashRun before % 2 = 1) ∧
      slashRun (regexBody pattern).toList % 2 = 0 ∧
      regexBody (regexBody pattern) = regexBody pattern ∧
      (regexBody pattern = pattern ↔
        (∀ c ∈ pattern.toList, c ≠ '\n' ∧ c ≠ '\r' ∧ c ≠ '\u2028' ∧ c ≠ '\u2029') ∧
          (∀ before after, pattern.toList = before ++ '/' :: after → slashRun before % 2 = 1) ∧
          slashRun pattern.toList % 2 = 0) := by
  have hbody := enclosed_regexBody pattern
  obtain ⟨hlines, hslashes, hends⟩ := (enclosed_iff _).mp hbody
  have hagain : regexBody (regexBody pattern) = regexBody pattern := (regexBody_eq_self_iff _).mpr hbody
  exact ⟨hlines, hslashes, hends, hagain, (regexBody_eq_self_iff pattern).trans (enclosed_iff _)⟩

end Scaffold.TypeScript
