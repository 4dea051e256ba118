import Scaffold.Pattern.Estimate
import Scaffold.Proofs.Python.Bindings
import Scaffold.Proofs.Text.SmallLetters

namespace Scaffold.Python

open Mark (isCode)

/-- Whether the mark is part of a word of code. -/
def isWordMark : Mark → Bool := isCode isWordChar

/-- The words of code. Literals and punctuation stand between words. -/
def wordsOf (ms : List Mark) : List String :=
  ((ms.splitOnP fun m => !isWordMark m).filter fun w => !w.isEmpty).map fun w =>
    String.ofList (w.map Mark.char)

/-- The identifiers that a piece of source reads outside of literals. -/
def identifiers (source : String) : List String :=
  (wordsOf (lex source).2).filter fun w => !w.toList.head?.any Char.isDigit

/-- A mark between words parts the words before it from those behind it. -/
theorem wordsOf_append_cons (before after : List Mark) {m : Mark} (hm : isWordMark m = false) :
    wordsOf (before ++ m :: after) = wordsOf before ++ wordsOf after := by
  simp only [wordsOf]
  rw [List.splitOnP_append_cons _ _ (by simpa using hm), List.filter_append, List.map_append]

theorem wordsOf_cons {m : Mark} (hm : isWordMark m = false) (after : List Mark) :
    wordsOf (m :: after) = wordsOf after := wordsOf_append_cons [] after hm

/-- No words stand where no mark is part of one. -/
theorem wordsOf_eq_nil {ms : List Mark} (h : ∀ m ∈ ms, isWordMark m = false) : wordsOf ms = [] := by
  induction ms with
  | nil => rfl
  | cons m rest ih =>
    obtain ⟨hm, hrest⟩ := List.forall_mem_cons.mp h
    rw [wordsOf_cons hm, ih hrest]

/-- The values of an enum are literals with commas between them. -/
theorem exists_reads_values (values : List String) :
    ∃ ms, lexer.Reads AtStart InCode (", ".intercalate (quoteAll values)) ms ∧
      ∀ m ∈ ms, isWordMark m = false := by
  induction values with
  | nil => exact ⟨[], fun _ hs => ⟨AtStart.inCode hs, rfl⟩, List.forall_mem_nil _⟩
  | cons v rest ih =>
    obtain ⟨ms, hread, hms⟩ := ih
    have htext : ∀ m ∈ [Mark.text], isWordMark m = false := by decide
    cases rest with
    | nil =>
      refine ⟨[.text], ?_, htext⟩
      simpa only [quoteAll, List.map_cons, List.map_nil, String.intercalate_singleton] using reads_quote v
    | cons w rest =>
      have hcomma : ∀ m ∈ Mark.ofCode ", ", isWordMark m = false := by decide
      have hseparator : lexer.Reads InCode AtStart ", " (Mark.ofCode ", ") :=
        reads_of_closesWord (by decide)
      refine ⟨[.text] ++ Mark.ofCode ", " ++ ms, ?_, ?_⟩
      · rw [quoteAll, List.map_cons, List.map_cons, String.intercalate_cons_cons]
        exact ((reads_quote v).append hseparator).append hread
      · exact List.forall_mem_append.mpr ⟨List.forall_mem_append.mpr ⟨htext, hcomma⟩, hms⟩

/-- The type of an enum reads one identifier, whatever its values say. -/
theorem identifiers_literalType (values : List String) : identifiers (literalType values) = ["Literal"] := by
  obtain ⟨ms, hread, hms⟩ := exists_reads_values values
  have hopen : lexer.Reads AtStart AtStart "Literal[" (Mark.ofCode "Literal[") :=
    reads_atStart (reads_of_closesWord (by decide))
  have hclose : lexer.Reads InCode InCode "]" (Mark.ofCode "]") := reads_plain (by decide)
  obtain ⟨-, hmarks⟩ := ((hopen.append hread).append hclose) .start rfl
  have hall : (lex (literalType values)).2 =
      Mark.ofCode "Literal" ++ .code '[' :: (ms ++ Mark.ofCode "]") := by
    have hbracket : Mark.ofCode "Literal[" = Mark.ofCode "Literal" ++ [.code '['] := by decide
    rw [lex, literalType, hmarks, hbracket]
    simp only [List.append_assoc, List.cons_append, List.nil_append]
  have hnone : wordsOf (ms ++ Mark.ofCode "]") = [] :=
    wordsOf_eq_nil (List.forall_mem_append.mpr ⟨hms, by decide⟩)
  have hword : wordsOf (Mark.ofCode "Literal") = ["Literal"] := by rfl
  rw [identifiers, hall, wordsOf_append_cons _ _ (by decide), hnone, hword]
  rfl

/-- The identifiers of the types before enums are written out. -/
theorem identifiers_baseType (type : ParamType) :
    identifiers (baseType type) = match type with
      | .number => ["float"]
      | .integer => ["int"]
      | .boolean => ["bool"]
      | .array => ["List", "Any"]
      | .object => ["Dict", "str", "Any"]
      | .date => ["datetime", "date"]
      | .string | .email | .url | .enum | .unknown => ["str"] := by
  cases type <;> decide

/-- The type that every handler answers with. -/
def returnType : String := "Dict[str, Any]"

/-- The annotations of a tool: the types of its parameters, in its model and in its handler, and the
type that the handler answers with. -/
def annotations (t : ToolDecl) : List String := t.params.map ParamDecl.typeToken ++ [returnType]

/-- The names that the tools of a server bind, for themselves and in their models. -/
def boundNames (s : Server) : List String :=
  s.tools.flatMap fun t => t.identifier :: t.parameterIdentifiers

/-- The name of the type of a parameter, where it is one that no import binds. -/
def unguardedName? : ParamType → Option String
  | .number => some "float"
  | .integer => some "int"
  | .boolean => some "bool"
  | .date => some "date"
  | .string | .email | .url | .enum | .array | .object | .unknown => none

variable {s : Server} {limits : Limits} {n : String}

theorem exists_identifierOf_eq (hn : n ∈ boundNames s) : ∃ raw, Text.identifierOf raw = n := by
  obtain ⟨t, -, hn⟩ := List.mem_flatMap.mp hn
  rcases List.mem_cons.mp hn with rfl | hn
  · exact ⟨t.name, rfl⟩
  · obtain ⟨p, -, rfl⟩ := List.mem_map.mp hn
    exact ⟨p.name, rfl⟩

theorem bindable_of_mem_boundNames [Pattern.SizeLimit] (hv : s.Valid limits)
    (hn : n ∈ boundNames s) : Bindable n := by
  obtain ⟨t, ht, hn⟩ := List.mem_flatMap.mp hn
  rcases List.mem_cons.mp hn with rfl | hn
  · exact (hv.tools_valid t ht).bindable
  · obtain ⟨p, hp, rfl⟩ := List.mem_map.mp hn
    exact ((hv.tools_valid t ht).parameters_valid p hp).bindable

/-- A name of a server that the type of a parameter reads is the name of a type that no import binds. -/
theorem mem_identifiers_typeToken [Pattern.SizeLimit] (hv : s.Valid limits) (hn : n ∈ boundNames s)
    (hstr : n ≠ "str")
    (p : Parameter) : n ∈ identifiers (declare p).typeToken ↔ unguardedName? p.type = some n := by
  obtain ⟨raw, hraw⟩ := exists_identifierOf_eq hn
  have hcapital {word : String} (hword : (word.toList.any fun c => Text.isCapital c.toNat) = true) :
      n ≠ word := hraw ▸ Text.identifierOf_ne hword raw
  have hdatetime : n ≠ "datetime" := by
    rintro rfl
    exact (bindable_of_mem_boundNames hv hn).not_generated (by decide)
  have hliteral : n ≠ "Literal" := hcapital (by decide)
  have hlist : n ≠ "List" := hcapital (by decide)
  have hany : n ≠ "Any" := hcapital (by decide)
  have hdict : n ≠ "Dict" := hcapital (by decide)
  simp only [declare, fragment, Fragment.resolve]
  cases halternatives : p.alternatives with
  | some values =>
    have henum : p.type = .enum := by
      by_contra htype
      rw [Parameter.alternatives, if_neg htype] at halternatives
      cases halternatives
    simp [identifiers_literalType, henum, unguardedName?, hliteral]
  | none =>
    simp only [Option.map_none, Option.getD_none, identifiers_baseType]
    cases p.type <;> simp [unguardedName?, hlist, hany, hdict, hdatetime, hstr, eq_comm]

/-- The names of an accepted server that its annotations read: `str`, which stands in the head of every
handler, and the names of the types of its parameters that no import binds. Every other name leaves
all annotations alone. -/
theorem mem_identifiers_annotations_iff [Pattern.SizeLimit] (ha : s.Accepted) (hl : s.language = .python)
    (hn : n ∈ boundNames s) :
    (∃ t ∈ s.toModule.tools, ∃ a ∈ annotations t, n ∈ identifiers a) ↔
      n = "str" ∨ ∃ t ∈ s.tools, ∃ p ∈ t.parameters, unguardedName? p.type = some n := by
  obtain ⟨limits, hv⟩ := ha.valid
  have hmodule : s.toModule.tools = s.tools.map (Tool.declare .python) := by
    rw [Server.toModule, Server.moduleIn, hl]
  have hreturn : identifiers returnType = ["Dict", "str", "Any"] := by rfl
  rw [hmodule]
  -- Each handler returns a mapping from texts, so `str` is read wherever there is a tool.
  by_cases hstr : n = "str"
  · have htools := hv.tools_ne_nil
    obtain ⟨t, ht⟩ := List.exists_mem_of_ne_nil _ htools
    refine iff_of_true ⟨t.declare .python, List.mem_map_of_mem ht, returnType, ?_, ?_⟩ (.inl hstr)
    · exact List.mem_append_right _ List.mem_cons_self
    · rw [hreturn, hstr]
      decide
  · constructor
    · rintro ⟨d, hd, a, ha, hread⟩
      obtain ⟨t, ht, rfl⟩ := List.mem_map.mp hd
      rcases List.mem_append.mp ha with ha | ha
      · obtain ⟨e, he, rfl⟩ := List.mem_map.mp ha
        obtain ⟨p, hp, rfl⟩ := List.mem_map.mp he
        exact .inr ⟨t, ht, p, hp, (mem_identifiers_typeToken hv hn hstr p).mp hread⟩
      · obtain ⟨raw, hraw⟩ := exists_identifierOf_eq hn
        have hdict : n ≠ "Dict" := hraw ▸ Text.identifierOf_ne (by decide) raw
        have hany : n ≠ "Any" := hraw ▸ Text.identifierOf_ne (by decide) raw
        rw [List.mem_singleton.mp ha, hreturn] at hread
        simp [hdict, hany, hstr] at hread
    · rintro (h | ⟨t, ht, p, hp, hname⟩)
      · exact absurd h hstr
      · refine ⟨t.declare .python, List.mem_map_of_mem ht, (declare p).typeToken, ?_,
          (mem_identifiers_typeToken hv hn hstr p).mpr hname⟩
        apply List.mem_append_left
        simp only [Tool.declare, List.map_map]
        exact List.mem_map_of_mem hp

/-- A server with a tool and a parameter that are named like types. -/
def shadowing : Server where
  name := "server"
  description := "tools"
  language := .python
  tools := [{
    name := "str"
    description := "a tool"
    parameters := [
      { name := "int", type := .integer, description := "a number" },
      { name := "float", type := .string, description := "some text" }] }]

/-- Its tool and its first parameter take types away from it; the other parameter takes the name of a
type that it does not use. -/
theorem mem_identifiers_annotations_shadowing :
    boundNames shadowing = ["str", "int", "float"] ∧ ∀ n ∈ ["str", "int", "float"],
      (∃ t ∈ shadowing.toModule.tools, ∃ a ∈ annotations t, n ∈ identifiers a) ↔
        n = "str" ∨ n = "int" := by
  have hnames : boundNames shadowing = ["str", "int", "float"] := by rfl
  refine ⟨hnames, fun n hn => ?_⟩
  have hread := mem_identifiers_annotations_iff (s := shadowing) ⟨{}, by decide +kernel⟩ rfl (hnames ▸ hn)
  rw [hread]
  simp [shadowing, unguardedName?, eq_comm]

/-- So names that validation lets pass are not always apart from what annotations read. -/
theorem not_forall_not_mem_identifiers :
    ¬ ∀ s : Server, s.Accepted → s.language = .python → ∀ n ∈ boundNames s,
      ∀ t ∈ s.toModule.tools, ∀ a ∈ annotations t, n ∉ identifiers a := by
  intro h
  have hbound : "str" ∈ boundNames shadowing := by decide +kernel
  have hread : "str" ∈ identifiers returnType := by decide +kernel
  obtain ⟨t, ht⟩ : ∃ t, t ∈ shadowing.toModule.tools := ⟨_, List.mem_cons_self⟩
  have hreturn : returnType ∈ annotations t := List.mem_append_right _ List.mem_cons_self
  exact h shadowing ⟨{}, by decide +kernel⟩ rfl "str" hbound t ht returnType hreturn hread

end Scaffold.Python
