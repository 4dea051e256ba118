import Scaffold.Proofs.Source.FreeText
import Scaffold.Proofs.Source.Lines

/-!
The header of a generated source: the lines before its first empty one. The name and the description of the
server stand there as they were entered, so nothing in them may end the comment that they stand in. A comment
line holds no end of a line and is never empty behind its marker, which makes the first empty line of the
source the one behind the versions.
-/

namespace Scaffold

namespace Text

/-- The lines of a source before its first empty line. -/
def headerOf (source : String) : List String := (linesOf source).takeWhile fun line => !line.isEmpty

/-- The only control character of the text is the tab. -/
def OnlyTabs (s : String) : Prop := ∀ c ∈ s.toList, isControl c = true → c = '\t'

theorem onlyTabs_of_all {s : String} (h : (s.toList.all fun c => !isControl c) = true) : OnlyTabs s := by
  intro c hc hcontrol
  have hnot := List.all_eq_true.mp h c hc
  rw [hcontrol] at hnot
  cases hnot

theorem OnlyTabs.append {s t : String} (hs : OnlyTabs s) (ht : OnlyTabs t) : OnlyTabs (s ++ t) := by
  intro c hc
  rw [String.toList_append, List.mem_append] at hc
  exact hc.elim (hs c) (ht c)

theorem onlyTabs_of_mem_commentLines {s l : String} (hl : l ∈ commentLines s) : OnlyTabs l :=
  fun _ hc => eq_tab_of_mem_commentLines hl hc

end Text

namespace Language

/-- What a comment line begins with. -/
def marker : Language → String
  | python => "#"
  | typeScript => "//"

/-- The comment lines that show a text. -/
def commented (l : Language) (text : String) : List String :=
  (Text.commentLines text).map fun line => if line.isEmpty then l.marker else l.marker ++ " " ++ line

/-- The comment line that names the versions. -/
def versionLine (settings : Settings) : Language → String
  | python =>
    "# MCP protocol version " ++ settings.protocolVersion ++ ", Python SDK mcp==" ++
      settings.pythonSdkVersion
  | typeScript =>
    "// MCP protocol version " ++ settings.protocolVersion ++
      ", TypeScript SDK @modelcontextprotocol/sdk@" ++ settings.typeScriptSdkVersion ++ ", zod@" ++
      settings.zodVersion

/-- A line that begins with the marker of a comment and is one line for every reader. -/
structure IsComment (l : Language) (line : String) : Prop where
  marked : ∃ rest, line = l.marker ++ rest
  oneLine : Text.OneLine line

variable {l : Language} {line : String}

/-- A comment line is not empty, for its marker is not. -/
theorem IsComment.isEmpty_eq_false (h : l.IsComment line) : line.isEmpty = false := by
  obtain ⟨rest, rfl⟩ := h.marked
  have hmarker : l.marker ≠ "" := by cases l <;> decide
  apply Bool.eq_false_iff.mpr
  intro hempty
  rw [String.isEmpty_iff, String.append_eq_empty_iff] at hempty
  exact hmarker hempty.1

/-- A marker with a line of shown text behind it. -/
theorem isComment_marker_append {rest : String} (h : Text.OneLine rest) : l.IsComment (l.marker ++ rest) := by
  have hmarker : Text.OneLine l.marker := by cases l <;> exact Text.oneLine_of_all (by decide)
  exact ⟨⟨rest, rfl⟩, hmarker.append h⟩

theorem isComment_marker (l : Language) : l.IsComment l.marker := by
  have h : l.IsComment (l.marker ++ "") := isComment_marker_append (Text.oneLine_of_all rfl)
  rwa [String.append_empty] at h

theorem onlyTabs_marker (l : Language) : Text.OnlyTabs l.marker := by
  cases l <;> exact Text.onlyTabs_of_all (by decide)

/-- A line of a text stays in its comment, and no control character of the text but the tab is shown. -/
theorem of_mem_commented {text : String} (h : line ∈ l.commented text) :
    l.IsComment line ∧ Text.OnlyTabs line := by
  obtain ⟨shown, hshown, rfl⟩ := List.mem_map.mp h
  split
  · exact ⟨l.isComment_marker, l.onlyTabs_marker⟩
  · have hspace : Text.OneLine " " := Text.oneLine_of_all (by decide)
    have htab : Text.OnlyTabs " " := Text.onlyTabs_of_all (by decide)
    constructor
    · rw [String.append_assoc]
      exact isComment_marker_append (hspace.append (Text.oneLine_of_mem_commentLines hshown))
    · exact (l.onlyTabs_marker.append htab).append (Text.onlyTabs_of_mem_commentLines hshown)

/-- The versions are named on one line if the settings hold no end of a line. -/
theorem isComment_versionLine (l : Language) {settings : Settings} (h : settings.OneLine) :
    l.IsComment (l.versionLine settings) := by
  have hlead : Text.OneLine " MCP protocol version " := Text.oneLine_of_all (by decide)
  cases l with
  | python =>
    have hmarked : "# MCP protocol version " = "#" ++ " MCP protocol version " := by decide
    unfold versionLine
    rw [hmarked, String.append_assoc, String.append_assoc, String.append_assoc]
    exact isComment_marker_append (l := python) (hlead.append h.pythonVersions)
  | typeScript =>
    have hmarked : "// MCP protocol version " = "//" ++ " MCP protocol version " := by decide
    unfold versionLine
    rw [hmarked, String.append_assoc, String.append_assoc, String.append_assoc, String.append_assoc,
      String.append_assoc]
    exact isComment_marker_append (l := typeScript) (hlead.append h.typeScriptVersions)

/-- What the header says of a server: its name, and its description unless that is empty, with a bare marker
behind each. -/
def title (l : Language) (s : Server) : List String :=
  l.commented s.name ++ [l.marker] ++
    if s.description.isEmpty then [] else l.commented s.description ++ [l.marker]

/-- Every line of the title is a comment without control characters, but for the tab. -/
theorem of_mem_title {s : Server} (h : line ∈ l.title s) : l.IsComment line ∧ Text.OnlyTabs line := by
  have hblock (text : String) (hl : line ∈ l.commented text ++ [l.marker]) :
      l.IsComment line ∧ Text.OnlyTabs line := by
    rcases List.mem_append.mp hl with hl | hl
    · exact of_mem_commented hl
    · rw [List.mem_singleton.mp hl]
      exact ⟨l.isComment_marker, l.onlyTabs_marker⟩
  unfold title at h
  rcases List.mem_append.mp h with h | h
  · exact hblock s.name h
  · split at h
    · cases h
    · exact hblock s.description h

/-- A title is printed as comments of the name and of the description. Behind the line with the versions
stands an empty one. -/
theorem exists_title_append (l : Language) (s : Server) (version : String) (texts : List String)
    (more : List Line) :
    ∃ rest, Line.comment 0 l.marker s.name ++ [⟨0, l.marker⟩] ++
        (if s.description.isEmpty then []
          else Line.comment 0 l.marker s.description ++ [⟨0, l.marker⟩]) ++
        Line.block 0 (version :: "" :: texts) ++ more =
      Line.block 0 (l.title s ++ [version]) ++ Line.blank :: rest := by
  have hcomment (text : String) : Line.comment 0 l.marker text = Line.block 0 (l.commented text) := by
    simp only [Line.comment, Line.block, commented, List.map_map, Function.comp_def]
  refine ⟨Line.block 0 texts ++ more, ?_⟩
  unfold title
  rw [hcomment, hcomment]
  split
  · simp [Line.block, Line.blank]
  · simp [Line.block, Line.blank]

/-- The source of a server begins with its title, the versions and an empty line. -/
theorem exists_lines (l : Language) (s : Server) (settings : Settings) :
    ∃ unit rest, l.print (s.moduleIn l) settings =
      Line.renderAll unit (Line.block 0 (l.title s ++ [l.versionLine settings]) ++ Line.blank :: rest) := by
  cases l with
  | python =>
    obtain ⟨rest, hlines⟩ : ∃ rest, Python.lines (s.moduleIn .python) settings =
        Line.block 0 (python.title s ++ [python.versionLine settings]) ++ Line.blank :: rest := by
      unfold Python.lines Python.preamble
      rw [List.append_assoc _ (List.flatMap ..), List.append_assoc, List.append_assoc]
      exact exists_title_append python s _ _ _
    exact ⟨Python.indentUnit, rest, congrArg (Line.renderAll Python.indentUnit) hlines⟩
  | typeScript =>
    obtain ⟨rest, hlines⟩ : ∃ rest, TypeScript.lines (s.moduleIn .typeScript) settings =
        Line.block 0 (typeScript.title s ++ [typeScript.versionLine settings]) ++ Line.blank :: rest := by
      unfold TypeScript.lines TypeScript.preamble
      rw [List.append_assoc _ (List.flatMap ..), List.append_assoc, List.append_assoc]
      exact exists_title_append typeScript s _ _ _
    exact ⟨TypeScript.indentUnit, rest, congrArg (Line.renderAll TypeScript.indentUnit) hlines⟩

/-- Lines that are not empty, with an empty one behind them, are the header of what begins with them. -/
theorem headerOf_renderAll {unit : String} {header : List String} {rest : List Line}
    (h : ∀ line ∈ header, l.IsComment line) :
    Text.headerOf (Line.renderAll unit (Line.block 0 header ++ Line.blank :: rest)) = header := by
  have hone : ∀ line ∈ header, Text.OneLine line := fun line hline => (h line hline).oneLine
  have hempty : Text.linesOf (Line.renderAll unit (Line.blank :: rest)) =
      "" :: Text.linesOf (Line.renderAll unit rest) := by
    have hnone : Text.OneLine "" := Text.oneLine_of_all rfl
    rw [← Text.linesOf_append hnone]
    simp only [Line.renderAll, List.map_cons, String.join_cons]
    rfl
  -- No comment is empty, so the header goes on up to the empty line behind it.
  have hkept : ∀ line ∈ header, (!line.isEmpty) = true := by
    intro line hline
    rw [(h line hline).isEmpty_eq_false]
    rfl
  rw [Text.headerOf, Line.renderAll_append, Line.linesOf_block unit hone, hempty,
    List.takeWhile_append_of_pos hkept, List.takeWhile_cons_of_neg (by simp), List.append_nil]

end Language

/-- The header of a generated source is the title of the server and the line that names the versions, whatever
the name and the description are. Every line of it is a comment for every reader of lines, and the name and
the description put no control character into it but the tab. -/
theorem Server.headerOf_emit (s : Server) {settings : Settings} (h : settings.OneLine) :
    Text.headerOf (s.emit settings) = s.language.title s ++ [s.language.versionLine settings] ∧
      (∀ line ∈ Text.headerOf (s.emit settings), s.language.IsComment line) ∧
      ∀ line ∈ s.language.title s, Text.OnlyTabs line := by
  have hcomment : ∀ line ∈ s.language.title s ++ [s.language.versionLine settings],
      s.language.IsComment line := by
    intro line hline
    rcases List.mem_append.mp hline with hline | hline
    · exact (Language.of_mem_title hline).1
    · rw [List.mem_singleton.mp hline]
      exact s.language.isComment_versionLine h
  have hheader : Text.headerOf (s.emit settings) =
      s.language.title s ++ [s.language.versionLine settings] := by
    obtain ⟨unit, rest, hemit⟩ := s.language.exists_lines s settings
    rw [emit, toModule, hemit]
    exact Language.headerOf_renderAll hcomment
  refine ⟨hheader, ?_, fun line hline => (Language.of_mem_title hline).2⟩
  rw [hheader]
  exact hcomment

/-- A name with every kind of line end, blank lines and a bell, and a description that would end a comment. -/
theorem Server.headerOf_emit_hostile :
    let s : Server := {
      name := "Notes\r\n\u2028\x07import os\x0b \n\n"
      description := "*/ \rprocess.exit()\u0085\u2029\ttab"
      language := .typeScript
      tools := [] }
    ({} : Settings).OneLine ∧ Text.headerOf (s.emit {}) = [
      "// Notes", "//", "//  import os", "//", "// */", "// process.exit()", "//", "// \ttab", "//",
      "// MCP protocol version 2024-11-05, TypeScript SDK @modelcontextprotocol/sdk@1.0.4, zod@3.23.8"] := by
  intro s
  have hshown := (s.headerOf_emit Settings.oneLine_default).1
  refine ⟨Settings.oneLine_default, hshown.trans ?_⟩
  decide +kernel

end Scaffold
