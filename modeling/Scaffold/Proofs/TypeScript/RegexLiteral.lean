import Scaffold.Pattern.Estimate
import Scaffold.Proofs.Pattern.Consumption
import Scaffold.Proofs.Source.FreeText
import Scaffold.Proofs.TypeScript.SourceLines

namespace Scaffold.TypeScript

/-- What stands behind the slash that ends the body of a regular expression. -/
def afterRegex? (s : ClassScan) : List Char → Option (List Char)
  | [] => none
  | c :: rest =>
    if isLineTerminator c then none
    else if c = '/' ∧ s = .outside then some rest
    else afterRegex? (s.step c) rest

/-- What stands behind the regular expression literal that a text begins with. -/
def dropRegex? : List Char → Option (List Char)
  | '/' :: c :: rest => if c = '*' ∨ c = '/' then none else afterRegex? .outside (c :: rest)
  | _ => none

/-- A slash ends the body, and what is left is shorter than what was read. -/
theorem length_lt_of_afterRegex? {s : ClassScan} {cs rest : List Char}
    (h : afterRegex? s cs = some rest) : rest.length < cs.length := by
  induction cs generalizing s with
  | nil => cases h
  | cons c cs ih =>
    unfold afterRegex? at h
    split at h
    · cases h
    · split at h
      · obtain rfl := Option.some.inj h
        exact Nat.lt_succ_self _
      · exact Nat.lt_succ_of_lt (ih h)

/-- A character that ends neither the line nor the body leads on. -/
theorem afterRegex?_cons {s : ClassScan} {c : Char} (hc : isLineTerminator c = false)
    (hslash : c = '/' → s ≠ .outside) (tail : List Char) :
    afterRegex? s (c :: tail) = afterRegex? (s.step c) tail := by
  rw [afterRegex?, if_neg (by simp [hc]), if_neg (not_and.mpr hslash)]

/-- A character of a pattern is written so that the literal goes on as the pattern does. -/
theorem afterRegex?_regexChar (s : ClassScan) (c : Char) (tail : List Char) :
    afterRegex? s (Text.regexChar s.escaped c ++ tail) = afterRegex? (s.step c) tail := by
  obtain ⟨inClass, escaped⟩ := s
  by_cases hterminator : c = '\n' ∨ c = '\r' ∨ c = '\u2028' ∨ c = '\u2029'
  · -- The escape in place of the end of a line takes itself, behind a backslash or not.
    rcases hterminator with rfl | rfl | rfl | rfl <;> cases inClass <;> cases escaped <;> rfl
  obtain ⟨hn, hr, hls, hps⟩ : c ≠ '\n' ∧ c ≠ '\r' ∧ c ≠ '\u2028' ∧ c ≠ '\u2029' := by
    simpa only [not_or] using hterminator
  have hline : isLineTerminator c = false := by
    simp [isLineTerminator, hn, hr, hls, hps]
  by_cases hslash : c = '/' ∧ escaped = false
  · obtain ⟨rfl, rfl⟩ := hslash
    cases inClass <;> rfl
  · have hchar : Text.regexChar escaped c = [c] := by
      have hplain : (c = '/' && !escaped) = false := by simpa using hslash
      simp [Text.regexChar, hn, hr, hls, hps, hplain]
    rw [hchar]
    refine afterRegex?_cons hline (fun hc houtside => hslash ⟨hc, ?_⟩) tail
    exact congrArg ClassScan.escaped houtside

/-- The body of a literal is read to its end as the pattern is scanned. -/
theorem afterRegex?_regexChars (s : ClassScan) (cs tail : List Char) :
    afterRegex? s (Text.regexChars s.escaped cs ++ tail) =
      afterRegex? ⟨(s.run cs).inClass, false⟩ tail := by
  induction cs generalizing s with
  | nil =>
    obtain ⟨inClass, escaped⟩ := s
    cases escaped with
    | false => rfl
    | true => exact afterRegex?_cons (by decide) (by simp) tail
  | cons c rest ih =>
    have hescaped : (c = '\\' && !s.escaped) = (s.step c).escaped := by
      obtain ⟨inClass, escaped⟩ := s
      by_cases hc : c = '\\' <;> cases escaped <;> cases inClass <;> simp [ClassScan.step, hc]
    rw [Text.regexChars, List.append_assoc, afterRegex?_regexChar, hescaped, ih, ClassScan.run_cons]

/-- The slash behind a body ends it exactly when no class is open. -/
theorem afterRegex?_slash_iff (inClass : Bool) (after : List Char) :
    afterRegex? ⟨inClass, false⟩ ('/' :: after) = some after ↔ inClass = false := by
  cases inClass with
  | false => exact iff_of_true rfl rfl
  | true =>
    refine iff_of_false (fun h => ?_) Bool.true_eq_false.mp
    rw [afterRegex?_cons (by decide) (by decide)] at h
    exact absurd (length_lt_of_afterRegex? h) (Nat.lt_irrefl _)

/-- The first character of a body makes no comment of it, unless it is an asterisk in the pattern. -/
theorem exists_regexChar_eq {c : Char} (hc : c ≠ '*') :
    ∃ d ds, Text.regexChar false c = d :: ds ∧ ¬(d = '*' ∨ d = '/') := by
  have hbackslash : ¬('\\' = '*' ∨ '\\' = '/') := by decide
  unfold Text.regexChar
  split
  · exact ⟨_, _, rfl, hbackslash⟩
  split
  · exact ⟨_, _, rfl, hbackslash⟩
  split
  · next hwide =>
    rw [Bool.or_eq_true, decide_eq_true_eq, decide_eq_true_eq] at hwide
    rcases hwide with rfl | rfl <;> exact ⟨_, _, rfl, hbackslash⟩
  split
  · exact ⟨_, _, rfl, hbackslash⟩
  · next hslash => exact ⟨_, _, rfl, not_or.mpr ⟨hc, by simpa using hslash⟩⟩

/-- A pattern between slashes is a literal of its own, whatever follows, exactly when it is not empty
and leaves no class open, unless it begins with an asterisk. -/
theorem dropRegex?_iff {p : String} (hp : p.toList.head? ≠ some '*') (after : String) :
    dropRegex? ("/" ++ Text.regexBody p ++ "/" ++ after).toList = some after.toList ↔
      p ≠ "" ∧ (ClassScan.outside.run p.toList).inClass = false := by
  have htext : ("/" ++ Text.regexBody p ++ "/" ++ after).toList =
      '/' :: (Text.regexChars false p.toList ++ '/' :: after.toList) := by
    simp [Text.regexBody]
  rw [htext]
  cases hcs : p.toList with
  | nil =>
    have hempty : p = "" := String.toList_eq_nil_iff.mp hcs
    exact iff_of_false (by simp [Text.regexChars, dropRegex?]) fun h => h.1 hempty
  | cons c rest =>
    have hne : p ≠ "" := by
      rintro rfl
      cases hcs
    have hc : c ≠ '*' := fun h => hp (by rw [hcs, h, List.head?_cons])
    obtain ⟨d, ds, hfirst, hcomment⟩ := exists_regexChar_eq hc
    have hdrop : dropRegex? ('/' :: (Text.regexChars false (c :: rest) ++ '/' :: after.toList)) =
        afterRegex? .outside (Text.regexChars false (c :: rest) ++ '/' :: after.toList) := by
      rw [Text.regexChars, hfirst]
      exact if_neg hcomment
    rw [hdrop, show false = ClassScan.outside.escaped from rfl, afterRegex?_regexChars,
      afterRegex?_slash_iff]
    exact (and_iff_right hne).symm

/-- The patterns of an accepted server. Each stands between slashes in the chain of its parameter, and it
is one literal there, whatever follows, exactly when it is not empty and a scanner finds no class open at
its end. A class that stays open was opened in a comment or in the name of a group. -/
theorem pattern_reads_iff [Pattern.SizeLimit] {s : Server} (ha : s.Accepted) {t : Tool} (ht : t ∈ s.tools)
    {p : Parameter} (hp : p ∈ t.parameters) (htype : p.type.isStringLike = true) {c : Constraints}
    (hc : p.constraints = some c) {x : String} (hx : c.pattern = some x) :
    ".regex(" ++ ("/" ++ Text.regexBody x ++ "/") ++ ")" ∈ (fragment p).parts ∧
      (∀ after : String,
        dropRegex? ("/" ++ Text.regexBody x ++ "/" ++ after).toList = some after.toList ↔
          x ≠ "" ∧ (ClassScan.outside.run x.toList).inClass = false) ∧
      ((ClassScan.outside.run x.toList).inClass = true →
        '#' ∈ x.toList ∨ ∃ n ∈ Pattern.groupNames x, '[' ∈ n.toList) := by
  obtain ⟨limits, hs⟩ := ha.valid
  have hcheck : Pattern.check x = .ok () :=
    (((hs.tools_valid t ht).parameters_valid p hp).consistent c hc).pattern_ok x hx
  refine ⟨?_, dropRegex?_iff (Pattern.head?_ne_of_check hcheck), Pattern.exists_of_inClass hcheck⟩
  have hmem : Check.pattern x ∈ p.checks := by
    simp [Parameter.checks, hc, htype, Parameter.textChecks, hx]
  refine mem_parts_iff.mpr ⟨_, hmem, ?_⟩
  simp only [call, String.append_assoc]
  rfl

/-- A server whose one parameter has this pattern. -/
def withPattern (pattern : String) : Server where
  name := "server"
  description := "texts"
  language := .typeScript
  tools := [{
    name := "search"
    description := "a tool"
    parameters := [{
      name := "query"
      type := .string
      description := "a text"
      constraints := some { pattern := some pattern } }] }]

/-- Slashes in a class and outside of one do not end a literal; a bracket in the name of a group keeps
its last slash from ending it. -/
theorem pattern_reads_slashes :
    dropRegex? ("/" ++ Text.regexBody "^a/[b/]$" ++ "/" ++ "),").toList = some "),".toList ∧
      dropRegex? ("/" ++ Text.regexBody "(?P<a[>b)" ++ "/" ++ "),").toList ≠ some "),".toList := by
  obtain ⟨-, hslashes, -⟩ := pattern_reads_iff (s := withPattern "^a/[b/]$") ⟨{}, by rfl⟩
    List.mem_cons_self List.mem_cons_self rfl rfl rfl
  obtain ⟨-, hgroup, -⟩ := pattern_reads_iff (s := withPattern "(?P<a[>b)") ⟨{}, by rfl⟩
    List.mem_cons_self List.mem_cons_self rfl rfl rfl
  refine ⟨(hslashes "),").mpr ⟨by decide, by rfl⟩, fun h => ?_⟩
  have hopen : (ClassScan.outside.run "(?P<a[>b)".toList).inClass = true := by rfl
  rw [((hgroup "),").mp h).2] at hopen
  cases hopen

/-- So not every pattern that validation lets pass is a literal: the empty one begins a comment. -/
theorem not_forall_pattern_reads :
    ¬ ∀ s : Server, s.Accepted → ∀ t ∈ s.tools, ∀ p ∈ t.parameters, p.type.isStringLike = true →
      ∀ c ∈ p.constraints, ∀ x ∈ c.pattern, ∀ after : String,
        dropRegex? ("/" ++ Text.regexBody x ++ "/" ++ after).toList = some after.toList := by
  intro h
  have hempty := h (withPattern "") ⟨{}, by rfl⟩ _ List.mem_cons_self _ List.mem_cons_self rfl
    _ rfl _ rfl ""
  have hnone : dropRegex? ("/" ++ Text.regexBody "" ++ "/" ++ "").toList = none := by rfl
  rw [hnone] at hempty
  cases hempty

end Scaffold.TypeScript
