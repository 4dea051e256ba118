import Mathlib
import Scaffold.Command.Generate
import Scaffold.Pattern.Estimate
import Scaffold.Proofs.Report.Leaves
import Scaffold.Proofs.Source.Lines
import Scaffold.Proofs.Validation.Rules

namespace Scaffold

open Report
open Text (linesOf lineFeeds)

namespace Report

/-- The lines that a leaf has: those of its text, the first of them behind its path. -/
def Leaf.lines (l : Leaf) : List String :=
  match linesOf l.text with
  | [] => []
  | first :: rest => (pathText l.path ++ ": " ++ first) :: rest

theorem Leaf.length_lines (l : Leaf) : l.lines.length = lineFeeds l.text + 1 := by
  rw [← Text.length_linesOf, lines]
  cases linesOf l.text <;> rfl

theorem Leaf.lines_of_lineFeeds {l : Leaf} (h : lineFeeds l.text = 0) : l.lines = [l.line] := by
  rw [lines, Text.linesOf_of_not_mem ((Text.lineFeeds_eq_zero_iff _).mp h)]
  rfl

theorem Leaf.linesOf_line {l : Leaf} (h : PlainPath l.path) : linesOf l.line = l.lines := by
  have hhead : '\n' ∉ (pathText l.path ++ ": ").toList := by
    rw [String.toList_append, List.mem_append]
    rintro (hc | hc)
    · exact (ne_of_mem_pathText h hc).2 rfl
    · exact absurd hc (by decide)
  obtain ⟨first, rest, hlines⟩ := List.exists_cons_of_ne_nil (Text.linesOf_ne_nil l.text)
  rw [line, Text.linesOf_append_of_not_mem hhead hlines, lines, hlines]

/-- How many line feeds the texts of leaves hold. -/
def feeds (ls : List Leaf) : Nat := (ls.map fun l => lineFeeds l.text).sum

theorem feeds_cons (l : Leaf) (rest : List Leaf) : feeds (l :: rest) = lineFeeds l.text + feeds rest := by
  rw [feeds, List.map_cons, List.sum_cons]
  rfl

@[simp] theorem feeds_append (ls rest : List Leaf) : feeds (ls ++ rest) = feeds ls + feeds rest := by
  rw [feeds, List.map_append, List.sum_append_nat]
  rfl

@[simp] theorem feeds_map_below (step : PathStep) (ls : List Leaf) : feeds (ls.map (Leaf.below step)) = feeds ls := by
  rw [feeds, List.map_map]
  rfl

/-- The lines of leaves are as many as the leaves and the line feeds in their texts. -/
theorem length_flatMap_lines (ls : List Leaf) : (ls.flatMap Leaf.lines).length = ls.length + feeds ls := by
  induction ls with
  | nil => rfl
  | cons l rest ih =>
    rw [List.flatMap_cons, List.length_append, l.length_lines, ih, List.length_cons, feeds_cons]
    omega

/-- Leaves without line feeds have a line each. -/
theorem flatMap_lines {ls : List Leaf} (h : feeds ls = 0) : ls.flatMap Leaf.lines = ls.map Leaf.line := by
  have hnone : ∀ l ∈ ls, lineFeeds l.text = 0 :=
    List.forall_mem_map.mp (List.sum_eq_zero_iff_forall_eq_nat.mp h)
  rw [List.map_eq_flatMap]
  exact List.flatMap_congr fun l hl => Leaf.lines_of_lineFeeds (hnone l hl)

theorem linesOf_flat {value : Json} (h : hasPlainKeys value = true) :
    linesOf (flat value) = (leaves value).flatMap Leaf.lines := by
  have hne : (leaves value).map Leaf.line ≠ [] := fun hnil => leaves_ne_nil value (List.map_eq_nil_iff.mp hnil)
  rw [flat_eq h, Text.linesOf_intercalate hne, List.flatMap_map]
  exact List.flatMap_congr fun l hl => Leaf.linesOf_line (plainPath_of_mem_leaves value h l hl)

theorem length_linesOf_flat {value : Json} (h : hasPlainKeys value = true) :
    (linesOf (flat value)).length = (leaves value).length + feeds (leaves value) := by
  rw [linesOf_flat h, length_flatMap_lines]

/-- There is a line for each leaf just in case no leaf has a line feed. -/
theorem linesOf_flat_eq_iff {value : Json} (h : hasPlainKeys value = true) :
    linesOf (flat value) = (leaves value).map Leaf.line ↔ feeds (leaves value) = 0 := by
  constructor
  · intro heq
    have hlength := length_linesOf_flat h
    rw [heq, List.length_map] at hlength
    omega
  · intro hnone
    rw [linesOf_flat h, flatMap_lines hnone]

@[simp] theorem feeds_leaves_string (s : String) : feeds (leaves (.string s)) = lineFeeds s := rfl

/-- A text that only holds characters of numbers has no line feed. -/
theorem lineFeeds_of_numberText {s : String} (h : NumberText s.toList) : lineFeeds s = 0 := by
  rw [Text.lineFeeds_eq_zero_iff]
  intro hc
  exact absurd (h _ hc) (by decide)

@[simp] theorem feeds_leaves_number (n : JsonNumber) : feeds (leaves (.number n)) = 0 :=
  lineFeeds_of_numberText n.numberText_text

@[simp] theorem feeds_leaves_bool (b : Bool) : feeds (leaves (.bool b)) = 0 := by
  cases b <;> decide

@[simp] theorem feeds_memberLeaves_cons (key : String) (value : Json) (rest : List (String × Json)) :
    feeds (memberLeaves ((key, value) :: rest)) = feeds (leaves value) + feeds (memberLeaves rest) := by
  rw [memberLeaves, feeds_append, feeds_map_below]

@[simp] theorem feeds_memberLeaves_nil : feeds (memberLeaves []) = 0 := rfl

@[simp] theorem feeds_itemLeaves_cons (index : Nat) (item : Json) (rest : List Json) :
    feeds (itemLeaves index (item :: rest)) = feeds (leaves item) + feeds (itemLeaves (index + 1) rest) := by
  rw [itemLeaves, feeds_append, feeds_map_below]

@[simp] theorem feeds_leaves_object (members : List (String × Json)) :
    feeds (leaves (.object members)) = feeds (memberLeaves members) := by
  cases members with
  | nil => decide
  | cons member rest => rw [leaves]

@[simp] theorem feeds_leaves_array (items : List Json) : feeds (leaves (.array items)) = feeds (itemLeaves 0 items) := by
  cases items with
  | nil => decide
  | cons item rest => rw [leaves]

/-- What stands before the first colon that has a blank behind it, and what stands behind the blank. -/
def cutField : List Char → Option (List Char × List Char)
  | ':' :: ' ' :: value => some ([], value)
  | c :: rest => (cutField rest).map fun (key, value) => (c :: key, value)
  | [] => none

/-- The path and the value that a line tells. -/
def readLine? (line : String) : Option (String × String) :=
  (cutField line.toList).map fun (key, value) => (String.ofList key, String.ofList value)

/-- Whether the lines of a text are read as the leaves of a value, one after the other. -/
def Tells (text : String) (value : Json) : Prop :=
  (linesOf text).map readLine? = (leaves value).map fun l => some (pathText l.path, l.text)

theorem cutField_append {key : List Char} (h : ∀ c ∈ key, c ≠ ':') (value : List Char) :
    cutField (key ++ ':' :: ' ' :: value) = some (key, value) := by
  induction key with
  | nil => rfl
  | cons c rest ih =>
    obtain ⟨hc, hrest⟩ := List.forall_mem_cons.mp h
    rw [List.cons_append, cutField, ih hrest, Option.map_some]
    exact fun _ hcolon => absurd hcolon hc

theorem readLine?_line {l : Leaf} (h : PlainPath l.path) :
    readLine? l.line = some (pathText l.path, l.text) := by
  have hline : l.line.toList = (pathText l.path).toList ++ ':' :: ' ' :: l.text.toList := by
    simp only [Leaf.line, String.toList_append, List.append_assoc]
    rfl
  have hcolon : ∀ c ∈ (pathText l.path).toList, c ≠ ':' := fun c hc => (ne_of_mem_pathText h hc).1
  rw [readLine?, hline, cutField_append hcolon, Option.map_some]
  simp only [String.ofList_toList]

/-- The lines are read back as the leaves just in case no leaf has a line feed. -/
theorem tells_flat_iff {value : Json} (h : hasPlainKeys value = true) :
    Tells (flat value) value ↔ feeds (leaves value) = 0 := by
  constructor
  · intro htells
    have hcount := congrArg List.length htells
    rw [List.length_map, List.length_map, length_linesOf_flat h] at hcount
    omega
  · intro hnone
    rw [Tells, (linesOf_flat_eq_iff h).mpr hnone, List.map_map]
    exact List.map_congr_left fun l hl => readLine?_line (plainPath_of_mem_leaves value h l hl)

end Report

/-- A report that a command prints. -/
inductive CommandReport where
  | validation (r : ValidationReport)
  | generation (r : GenerationReport)

namespace CommandReport

def toJson : CommandReport → Json
  | validation r => r.toJson
  | generation r => r.toJson

/-- The texts of a report that are not fixed words. -/
def texts : CommandReport → List String
  | validation r => r.serverName :: r.errors.flatMap fun e => [e.field, e.message]
  | generation r => r.serverName :: r.outputDirectory :: r.files

end CommandReport

theorem itemsHavePlainKeys_map {α : Type} (encode : α → Json) (h : ∀ a, hasPlainKeys (encode a) = true)
    (as : List α) : itemsHavePlainKeys (as.map encode) = true := by
  induction as with
  | nil => rfl
  | cons a rest ih =>
    rw [List.map_cons, itemsHavePlainKeys, h a, ih]
    rfl

theorem CommandReport.hasPlainKeys_toJson (r : CommandReport) : hasPlainKeys r.toJson = true := by
  cases r with
  | validation r =>
    have herrors := itemsHavePlainKeys_map ValidationReport.errorJson (fun _ => by rfl) r.errors
    simp only [toJson, ValidationReport.toJson, Json.ofNat, hasPlainKeys, membersHavePlainKeys, herrors]
    decide
  | generation r =>
    have hfiles := itemsHavePlainKeys_map .string (fun _ => by rfl) r.files
    simp only [toJson, GenerationReport.toJson, Json.ofNat, hasPlainKeys, membersHavePlainKeys, hfiles]
    decide

/-- The line feeds of items are those of the texts that the items are made from. -/
theorem feeds_itemLeaves_map {α : Type} (encode : α → Json) (textsOf : α → List String)
    (h : ∀ a, feeds (leaves (encode a)) = ((textsOf a).map lineFeeds).sum) (index : Nat) (as : List α) :
    feeds (itemLeaves index (as.map encode)) = ((as.flatMap textsOf).map lineFeeds).sum := by
  induction as generalizing index with
  | nil => rfl
  | cons a rest ih =>
    rw [List.map_cons, feeds_itemLeaves_cons, h, ih, List.flatMap_cons, List.map_append, List.sum_append]

@[simp] theorem lineFeeds_name (l : Language) : lineFeeds l.name = 0 := by
  cases l <;> decide

namespace CommandReport

/-- The line feeds in the leaves of a report are those of its texts. -/
theorem feeds_leaves (r : CommandReport) : feeds (leaves r.toJson) = (r.texts.map lineFeeds).sum := by
  cases r with
  | validation r =>
    have herrors := feeds_itemLeaves_map ValidationReport.errorJson (fun e => [e.field, e.message])
      (fun _ => rfl) 0 r.errors
    simp [toJson, ValidationReport.toJson, Json.ofNat, texts, herrors]
  | generation r =>
    have hfiles := feeds_itemLeaves_map .string (fun s => [s]) (fun _ => rfl) 0 r.files
    simp [toJson, GenerationReport.toJson, Json.ofNat, texts, hfiles]

theorem feeds_leaves_eq_zero_iff (r : CommandReport) :
    feeds (leaves r.toJson) = 0 ↔ ∀ s ∈ r.texts, '\n' ∉ s.toList := by
  rw [feeds_leaves, List.sum_eq_zero_iff_forall_eq_nat, List.forall_mem_map]
  exact forall₂_congr fun s _ => Text.lineFeeds_eq_zero_iff s

/-- A report in the text format has the lines of its leaves one after the other, and so a line for each leaf
and one more for each line feed in its texts. It has just the lines of its leaves, and is read back as them,
if there is no line feed in its texts, and only then. -/
theorem linesOf_format (r : CommandReport) (colors : Bool) :
    let told := OutputFormat.text.format colors r.toJson
    linesOf told = (leaves r.toJson).flatMap Leaf.lines ∧
      (linesOf told).length = (leaves r.toJson).length + (r.texts.map lineFeeds).sum ∧
      (linesOf told = (leaves r.toJson).map Leaf.line ↔ ∀ s ∈ r.texts, '\n' ∉ s.toList) ∧
      (Tells told r.toJson ↔ ∀ s ∈ r.texts, '\n' ∉ s.toList) := by
  have hkeys := r.hasPlainKeys_toJson
  refine ⟨linesOf_flat hkeys, ?_, ?_, ?_⟩
  · rw [← feeds_leaves]
    exact length_linesOf_flat hkeys
  · rw [← feeds_leaves_eq_zero_iff]
    exact linesOf_flat_eq_iff hkeys
  · rw [← feeds_leaves_eq_zero_iff]
    exact tells_flat_iff hkeys

/-- Whatever stands on the last line of the name of a server is a line of the report on it. -/
theorem mem_linesOf_check [Pattern.SizeLimit] (limits : Limits) {s : Server} {before last : String}
    (hname : s.name = before ++ "\n" ++ last) (hlast : '\n' ∉ last.toList) (colors : Bool) :
    last ∈ linesOf (OutputFormat.text.format colors (ValidationReport.check limits s).toJson) := by
  let r : CommandReport := .validation (.check limits s)
  have hleaf : ⟨[.member "server_name"], .string s.name⟩ ∈ leaves r.toJson :=
    List.mem_cons_of_mem _ List.mem_cons_self
  obtain ⟨first, rest, hbefore⟩ := List.exists_cons_of_ne_nil (Text.linesOf_ne_nil before)
  have hlines : linesOf s.name = first :: (rest ++ [last]) := by
    rw [hname, Text.linesOf_append_feed, hbefore, Text.linesOf_of_not_mem hlast, List.cons_append]
  change last ∈ linesOf (flat r.toJson)
  rw [linesOf_flat r.hasPlainKeys_toJson]
  refine List.mem_flatMap.mpr ⟨_, hleaf, ?_⟩
  rw [Leaf.lines, Leaf.text, hlines]
  exact List.mem_cons_of_mem _ (List.mem_append_right rest (List.mem_singleton_self last))

/-- A server that validation lets pass, with a name whose second line tells that it is not valid. -/
def twoLineName : Server where
  name := "Demo\nvalid: false"
  description := "Demo server"
  language := .python
  tools := [{ name := "ping", description := "Pings" }]

/-- So a report need not have a line for each leaf, even if it is one on a server that validation lets pass. -/
theorem not_forall_length_linesOf :
    ¬∀ s : Server, s.Accepted → ∀ (limits : Limits) (colors : Bool),
      (linesOf (OutputFormat.text.format colors (ValidationReport.check limits s).toJson)).length =
        (leaves (ValidationReport.check limits s).toJson).length := by
  intro h
  let r : CommandReport := .validation (.check {} twoLineName)
  have hlength : (linesOf (flat r.toJson)).length = (leaves r.toJson).length :=
    h twoLineName ⟨{}, by rfl⟩ {} false
  have hfeeds : feeds (leaves r.toJson) = 1 := by
    rw [r.feeds_leaves]
    decide
  rw [length_linesOf_flat r.hasPlainKeys_toJson, hfeeds] at hlength
  exact absurd hlength (Nat.succ_ne_self _)

end CommandReport

end Scaffold
