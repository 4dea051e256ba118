import Scaffold.Pattern.Estimate
import Scaffold.Proofs.Command.Load

namespace Scaffold.Command

variable {tree : FileTree}

/-- The text describes no server. -/
def Malformed (text : String) : Prop := ∃ failure, Server.ofText text = .error failure

/-- The text describes a server that breaks a rule. -/
def Rejected [Pattern.SizeLimit] (text : String) : Prop :=
  ∃ server failure, Server.ofText text = .ok server ∧ server.validate {} = .error failure

variable {text : String}

theorem not_malformed {server : Server} (hparse : Server.ofText text = .ok server) : ¬Malformed text := by
  rintro ⟨failure, hmalformed⟩
  rw [hparse] at hmalformed
  cases hmalformed

theorem refused_iff [Pattern.SizeLimit] {server : Server} (hparse : Server.ofText text = .ok server) :
    Malformed text ∨ Rejected text ↔ (ValidationReport.check {} server).valid = false := by
  constructor
  · rintro (hmalformed | ⟨described, failure, hdescribed, hrejected⟩)
    · exact absurd hmalformed (not_malformed hparse)
    · obtain rfl : server = described := Except.ok.inj (hparse.symm.trans hdescribed)
      apply Bool.eq_false_iff.mpr
      intro hvalid
      rw [(valid_check_eq_true_iff {} server).mp hvalid] at hrejected
      cases hrejected
  · intro hinvalid
    cases hvalidate : server.validate {} with
    | ok u =>
      rw [(valid_check_eq_true_iff {} server).mpr hvalidate] at hinvalid
      cases hinvalid
    | error failure => exact .inr ⟨server, failure, hparse, hvalidate⟩

/-- A command that, as far as it comes to an outcome, succeeds never complains about its input. -/
theorem status_ne_invalidInput {command : ExceptT Trouble (StateM FileTree) Outcome}
    (h : ∀ outcome after, onTree command tree = (.ok outcome, after) → outcome.status = .success) :
    (outcomeOf (onTree command tree).1).status ≠ .invalidInput := by
  cases hrun : onTree command tree with
  | mk result after =>
    cases result with
    | ok outcome =>
      have hsuccess : (outcomeOf (.ok outcome)).status = .success := h outcome after hrun
      rw [hsuccess]
      decide
    | error trouble =>
      have herror : (outcomeOf (.error trouble)).status = .error := rfl
      rw [herror]
      decide

theorem status_generateValid_ne_invalidInput (env : Environment) (format : OutputFormat)
    (options : GenerateOptions) (server : Server) (tree : FileTree) :
    (outcomeOf (onTree (generateValid env format options server) tree).1).status ≠ .invalidInput := by
  apply status_ne_invalidInput
  intro outcome after h
  obtain ⟨settings, loaded, -, h⟩ := onTree_bind_eq_ok_iff.mp h
  obtain ⟨project, generated, -, h⟩ := onTree_bind_eq_ok_iff.mp h
  obtain ⟨-, written, -, h⟩ := onTree_bind_eq_ok_iff.mp h
  cases h
  rfl

theorem exitStatus_validate_iff [Pattern.SizeLimit] (env : Environment) (format : OutputFormat)
    {input : String} (hread : tree.read input = .ok text) :
    exitStatus env format (.validate input) tree = .invalidInput ↔ Malformed text ∨ Rejected text := by
  have hrun : Command.run env format (.validate input) =
      (validateServer env format input : ExceptT Trouble (StateM FileTree) Outcome) := rfl
  rw [exitStatus, hrun, validateServer, onTree_withServer, hread]
  dsimp only
  cases hparse : Server.ofText text with
  | error failure => exact iff_of_true rfl (.inl ⟨failure, hparse⟩)
  | ok server =>
    rw [refused_iff hparse]
    dsimp only
    rw [onTree_pure]
    dsimp only [outcomeOf]
    cases (ValidationReport.check {} server).valid <;> decide

theorem exitStatus_generate_iff [Pattern.SizeLimit] (env : Environment) (format : OutputFormat)
    {options : GenerateOptions} (hread : tree.read options.input = .ok text) :
    exitStatus env format (.generate options) tree = .invalidInput ↔ Malformed text ∨ Rejected text := by
  have hrun : Command.run env format (.generate options) =
      (generateProject env format options : ExceptT Trouble (StateM FileTree) Outcome) := rfl
  rw [exitStatus, hrun, generateProject, onTree_withServer, hread]
  dsimp only
  cases hparse : Server.ofText text with
  | error failure => exact iff_of_true rfl (.inl ⟨failure, hparse⟩)
  | ok server =>
    rw [refused_iff hparse]
    dsimp only
    cases (ValidationReport.check {} server).valid with
    | true =>
      rw [if_pos rfl]
      exact iff_of_false (status_generateValid_ne_invalidInput env format options server tree) (by decide)
    | false => exact iff_of_true rfl rfl

theorem exitStatus_preview_iff [Pattern.SizeLimit] (env : Environment) (format : OutputFormat)
    {options : PreviewOptions} (hread : tree.read options.input = .ok text) :
    exitStatus env format (.preview options) tree = .invalidInput ↔ Malformed text := by
  have hrun : Command.run env format (.preview options) =
      (previewFile env format options : ExceptT Trouble (StateM FileTree) Outcome) := rfl
  rw [exitStatus, hrun, previewFile, onTree_withServer, hread]
  dsimp only
  cases hparse : Server.ofText text with
  | error failure => exact iff_of_true rfl ⟨failure, hparse⟩
  | ok server =>
    refine iff_of_false (status_ne_invalidInput fun outcome after h => ?_) (not_malformed hparse)
    obtain ⟨settings, loaded, -, h⟩ := onTree_bind_eq_ok_iff.mp h
    obtain ⟨project, generated, -, h⟩ := onTree_bind_eq_ok_iff.mp h
    cases hselect : project.select options.file with
    | ok file =>
      rw [hselect] at h
      cases h
      rfl
    | error unknown =>
      rw [hselect] at h
      cases congrArg Prod.fst h

/-- Checking a description and generating from it complain about the same texts: those that describe no
server, and those whose server breaks a rule. Neither the options nor the files that are there make a
difference. Showing a file complains about a text only if it describes no server. -/
theorem invalidInput_iff_of_read [Pattern.SizeLimit] {input : String} {generating : GenerateOptions}
    {previewing : PreviewOptions} {tree₁ tree₂ tree₃ : FileTree}
    (hvalidate : tree₁.read input = .ok text) (hgenerate : tree₂.read generating.input = .ok text)
    (hpreview : tree₃.read previewing.input = .ok text) (env₁ env₂ env₃ : Environment)
    (format₁ format₂ format₃ : OutputFormat) :
    (exitStatus env₁ format₁ (.validate input) tree₁ = .invalidInput ↔
      exitStatus env₂ format₂ (.generate generating) tree₂ = .invalidInput) ∧
    (exitStatus env₂ format₂ (.generate generating) tree₂ = .invalidInput ↔
      Malformed text ∨ Rejected text) ∧
    (exitStatus env₃ format₃ (.preview previewing) tree₃ = .invalidInput ↔ Malformed text) := by
  have hvalidated := exitStatus_validate_iff env₁ format₁ hvalidate
  have hgenerated := exitStatus_generate_iff env₂ format₂ hgenerate
  have hpreviewed := exitStatus_preview_iff env₃ format₃ hpreview
  exact ⟨hvalidated.trans hgenerated.symm, hgenerated, hpreviewed⟩

/-- A description whose server has no name. -/
def namelessDescription : String := "\x7b\"serverName\":\"\",\"serverType\":\"python\"\x7d"

/-- A server without a name is refused by checking and by generating, but its files can be shown. -/
theorem invalidInput_nameless :
    let tree : FileTree := ⟨[(["a.json"], .file namelessDescription false)], []⟩
    exitStatus {} .json (.validate "a.json") tree = .invalidInput ∧
      exitStatus {} .text (.generate { input := "/a.json", force := true }) tree = .invalidInput ∧
      exitStatus {} .pretty (.preview { input := "a.json" }) tree ≠ .invalidInput := by
  intro tree
  obtain ⟨server, hparse, hinvalid⟩ : ∃ server, Server.ofText namelessDescription = .ok server ∧
      (ValidationReport.check {} server).valid = false := ⟨_, by rfl, by rfl⟩
  have hrefused := (refused_iff hparse).mpr hinvalid
  have hread : tree.read "a.json" = .ok namelessDescription := by rfl
  have hgenerate : tree.read ({ input := "/a.json", force := true } : GenerateOptions).input =
      .ok namelessDescription := by rfl
  have hpreview : tree.read ({ input := "a.json" } : PreviewOptions).input =
      .ok namelessDescription := by rfl
  obtain ⟨hagree, hgenerated, hpreviewed⟩ :=
    invalidInput_iff_of_read hread hgenerate hpreview {} {} {} .json .text .pretty
  exact ⟨hagree.mpr (hgenerated.mpr hrefused), hgenerated.mpr hrefused,
    fun h => not_malformed hparse (hpreviewed.mp h)⟩

end Scaffold.Command
