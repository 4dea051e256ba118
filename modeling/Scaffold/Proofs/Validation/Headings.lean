import Mathlib.Data.List.Forall2
import Scaffold.Proofs.Validation.Place

/-!
The problems of a server description, by kind. Every check reports under headings of its own, each at
most once and in a fixed order; a heading is the place that the problem is reported at and the words
that its message begins with. What is true of any two headings of a report, in their order, is then
true of its problems: that the first does not stand behind the second, and that they are not the same.
-/

namespace Scaffold

/-- What the problems of one kind have in common: where they are reported, and how the message
begins. -/
structure Heading (α : Type) where
  place : α
  words : String
deriving DecidableEq, Repr

namespace Heading

variable {α β : Type}

/-- The same heading at a place within another one. -/
def within (f : α → β) (h : Heading α) : Heading β := ⟨f h.place, h.words⟩

/-- Headings that no problem can stand under both. -/
def Apart (h k : Heading α) : Prop :=
  h.place = k.place → ¬(h.words.toList <+: k.words.toList ∨ k.words.toList <+: h.words.toList)

instance [DecidableEq α] : DecidableRel (Apart (α := α)) := fun h k =>
  inferInstanceAs (Decidable (h.place = k.place → _))

theorem Apart.within {f : α → β} (hf : Function.Injective f) {h k : Heading α} (ha : h.Apart k) :
    (h.within f).Apart (k.within f) := fun he => ha (hf he)

theorem apart_of_ne {h k : Heading α} (hne : h.place ≠ k.place) : h.Apart k := fun he => absurd he hne

end Heading

/-- The problem is one of the kind. -/
structure FieldError.Bears (e : FieldError) (h : Heading FieldPlace) : Prop where
  field_eq : e.field = h.place.path
  words_prefix : h.words.toList <+: e.message.toList

/-- The problems stand under some of the headings, one under each of these, in the same order. -/
def Under : List FieldError → List (Heading FieldPlace) → Prop := List.SublistForall₂ FieldError.Bears

namespace Under

variable {es fs : List FieldError} {hs ks : List (Heading FieldPlace)}

theorem append (h : Under es hs) (h' : Under fs ks) : Under (es ++ fs) (hs ++ ks) := by
  induction h with
  | nil =>
    rename_i l
    induction l with
    | nil => exact h'
    | cons _ _ ih => exact .cons_right ih
  | cons hb _ ih => exact .cons hb ih
  | cons_right _ ih => exact .cons_right ih

theorem one {e : FieldError} {h : Heading FieldPlace} (hb : e.Bears h) : Under [e] [h] := .cons hb .nil

theorem flatMap {α : Type} {f : α → List FieldError} {g : α → Heading FieldPlace}
    (h : ∀ a, Under (f a) [g a]) (as : List α) : Under (as.flatMap f) (as.map g) := by
  induction as with
  | nil => exact .nil
  | cons a rest ih =>
    rw [List.flatMap_cons]
    exact (h a).append ih

/-- A conditional problem stands under its heading, if at all. -/
theorem problemIf {p : FieldPlace} {words field message : String} (hf : field = p.path)
    (hm : words.toList <+: message.toList) (condition : Bool) :
    Under (problemIf condition field message) [⟨p, words⟩] := by
  cases condition with
  | true => exact one ⟨hf, hm⟩
  | false => exact .nil

theorem exists_bears (h : Under es hs) {e : FieldError} (he : e ∈ es) : ∃ k ∈ hs, e.Bears k := by
  induction h with
  | nil => cases he
  | cons hb _ ih =>
    rcases List.mem_cons.mp he with rfl | he
    · exact ⟨_, List.mem_cons_self, hb⟩
    · obtain ⟨k, hk, hb⟩ := ih he
      exact ⟨k, List.mem_cons_of_mem _ hk, hb⟩
  | cons_right _ ih =>
    obtain ⟨k, hk, hb⟩ := ih he
    exact ⟨k, List.mem_cons_of_mem _ hk, hb⟩

/-- What holds of any two headings in their order holds of the problems under them. -/
theorem pairwise {R : Heading FieldPlace → Heading FieldPlace → Prop} {S : FieldError → FieldError → Prop}
    (hRS : ∀ {h k e f}, R h k → e.Bears h → f.Bears k → S e f) (hu : Under es hs)
    (hp : hs.Pairwise R) : es.Pairwise S := by
  induction hu with
  | nil => exact .nil
  | cons hb hrest ih =>
    obtain ⟨hfirst, hp⟩ := List.pairwise_cons.mp hp
    refine List.pairwise_cons.mpr ⟨fun f hf => ?_, ih hp⟩
    obtain ⟨k, hk, hbears⟩ := exists_bears hrest hf
    exact hRS (hfirst k hk) hb hbears
  | cons_right _ ih => exact ih (List.pairwise_cons.mp hp).2

/-- Problems under headings apart from each other are different. -/
theorem nodup (hu : Under es hs) (hp : hs.Pairwise Heading.Apart) : es.Nodup := by
  refine pairwise (fun {h k e f} hapart he hf => ?_) hu hp
  rintro rfl
  have hplace : h.place = k.place := FieldPlace.path_injective (he.field_eq.symm.trans hf.field_eq)
  exact hapart hplace (List.prefix_or_prefix_of_prefix he.words_prefix hf.words_prefix)

end Under

section Checks

variable {α : Type}

def textHeadings (place : α) (label : String) : List (Heading α) :=
  [⟨place, label ++ " is required"⟩, ⟨place, label ++ " must be at most "⟩]

def nameHeadings (place : α) (label : String) : List (Heading α) :=
  textHeadings place label ++ [⟨place, "Name "⟩, ⟨place, "Duplicate "⟩]

theorem place_of_mem_nameHeadings {p : α} {label : String} {h : Heading α}
    (hh : h ∈ nameHeadings p label) : h.place = p := by
  simp only [nameHeadings, textHeadings, List.mem_append, List.mem_cons, List.not_mem_nil,
    or_false] at hh
  rcases hh with (rfl | rfl) | rfl | rfl <;> rfl

end Checks

def constraintHeadings : List (Heading ParameterPart) := [
  ⟨.constraint .enum, "Enum parameters require at least one allowed value"⟩,
  ⟨.constraint .minLength, "minLength ("⟩,
  ⟨.constraint .minimum, "minimum" ++ " must be a finite number"⟩,
  ⟨.constraint .maximum, "maximum" ++ " must be a finite number"⟩,
  ⟨.constraint .minimum, "minimum ("⟩,
  ⟨.constraint .pattern, "Invalid regular expression: "⟩,
  ⟨.constraint .enum, "Enum values must not be empty"⟩,
  ⟨.constraint .default, "Default"⟩]

def parameterHeadings : List (Heading ParameterPart) :=
  nameHeadings ParameterPart.name "Parameter name" ++
    ([⟨.name, "Parameter name " ++ "\""⟩, ⟨.description, "Parameter description must be at most "⟩,
      ⟨.type, "Unsupported parameter type; expected one of: "⟩] : List (Heading ParameterPart)) ++
    constraintHeadings

def toolHeadings : List (Heading ToolPart) :=
  nameHeadings ToolPart.name "Tool name" ++ textHeadings ToolPart.description "Tool description" ++
    ([⟨.parameters, "At most "⟩] : List (Heading ToolPart))

/-- The problems of a parameter that its type and its constraints alone decide on. -/
def constraintProblems [Pattern.SizeLimit] (path : String) (type : ParamType)
    (constraints : Option Constraints) :
    List FieldError :=
  problemIf (type = .enum && (constraints.bind Constraints.alternatives).isNone)
    (path ++ ".constraints.enum") "Enum parameters require at least one allowed value" ++
  match constraints with
  | some c => c.problems (path ++ ".constraints") type
  | none => []

/-- The problems of a parameter apart from those of its name and of its constraints. -/
def Parameter.plainProblems (limits : Limits) (path : String) (p : Parameter) : List FieldError :=
  problemIf (limits.descriptionLength < p.description.length) (path ++ ".description")
    ("Parameter description must be at most " ++ toString limits.descriptionLength ++
      " characters") ++
  problemIf (p.type = .unknown) (path ++ ".type")
    ("Unsupported parameter type; expected one of: " ++ knownTypes)

theorem Parameter.bodyProblems_eq [Pattern.SizeLimit] (limits : Limits) (path : String) (p : Parameter) :
    p.bodyProblems limits path =
      p.plainProblems limits path ++ constraintProblems path p.type p.constraints :=
  List.append_assoc ..

theorem begins_append {words a b : String} (h : words.toList <+: a.toList) :
    words.toList <+: (a ++ b).toList := by
  rw [String.toList_append]
  exact h.trans (List.prefix_append _ _)

theorem begins_self (words : String) : words.toList <+: words.toList := List.prefix_refl _

/-- A name in a message begins with a quote. -/
theorem begins_inspect (a name : String) : (a ++ "\"").toList <+: (a ++ Text.inspect name).toList := by
  refine ⟨name.toList.flatMap Text.inspectChar ++ ['"'], ?_⟩
  simp [Text.inspect]

theorem under_textProblems (p : FieldPlace) (label value : String) (limit : Nat) :
    Under (textProblems p.path label value limit) (textHeadings p label) := by
  have hlong : (label ++ " must be at most ").toList <+:
      (label ++ " must be at most " ++ toString limit ++ " characters").toList :=
    begins_append (begins_append (begins_self _))
  unfold textProblems
  split
  · exact .cons ⟨rfl, begins_self _⟩ .nil
  · exact .cons_right (Under.problemIf rfl hlong _)

theorem under_nameProblems (seen : List String) (p : FieldPlace) (label kind name : String) (limit : Nat) :
    Under (nameProblems seen p.path label kind name limit).1 (nameHeadings p label) := by
  have htext := under_textProblems p label name limit
  have hnone : Under (textProblems p.path label name limit ++ []) (nameHeadings p label) :=
    htext.append .nil
  rw [List.append_nil] at hnone
  unfold nameProblems
  split
  · exact hnone
  dsimp only
  split
  · next fault _ =>
    refine htext.append ?_
    cases fault with
    | malformed =>
      have hbegins := begins_append (b := Text.inspect name) (begins_self "Name ")
      exact .cons ⟨rfl, begins_append (begins_append (begins_append hbegins))⟩ .nil
    | reserved =>
      have hbegins := begins_append (b := Text.inspect name) (begins_self "Name ")
      exact .cons ⟨rfl, begins_append (begins_append hbegins)⟩ .nil
    | generated =>
      have hbegins := begins_append (b := Text.inspect name) (begins_self "Name ")
      exact .cons ⟨rfl, begins_append (begins_append hbegins)⟩ .nil
    | duplicate =>
      have hbegins := begins_append (b := kind) (begins_self "Duplicate ")
      exact .cons_right (.cons ⟨rfl, begins_append (begins_append hbegins)⟩ .nil)
  · exact hnone

theorem under_shadowProblems (p : FieldPlace) (tool name : Option String) :
    Under (shadowProblems p.path tool name) [⟨p, "Parameter name " ++ "\""⟩] := by
  unfold shadowProblems
  cases name with
  | none => exact .nil
  | some name => exact Under.problemIf rfl (begins_append (begins_inspect "Parameter name " name)) _

theorem DefaultFault.begins_message (fault : DefaultFault) :
    "Default".toList <+: fault.message.toList := by
  cases fault with
  | notNumber | notInteger | notDate | notAllowed =>
    exact begins_append (begins_append (by decide))
  | numberWanted | boolWanted | dateWanted | unsupported => decide

section Constraints

variable (i j : Nat) (c : Constraints)

/-- The place of a constraint of the parameter. -/
def constraintPlace (key : ConstraintKey) : FieldPlace := .parameter i j (.constraint key)

theorem path_constraintPlace (key : ConstraintKey) :
    (constraintPlace i j key).path = constraintsPath i j ++ key.path :=
  (String.append_assoc ..).symm

theorem under_lengthProblems :
    Under (lengthProblems (constraintsPath i j) c) [⟨constraintPlace i j .minLength, "minLength ("⟩] := by
  unfold lengthProblems
  split
  · refine Under.problemIf (path_constraintPlace i j .minLength).symm ?_ _
    exact begins_append (begins_append (begins_append (begins_append (begins_self _))))
  · exact .nil

theorem under_finiteProblems (key : ConstraintKey) (name : String) (hkey : key.path = "." ++ name)
    (bound : Option Binary64) :
    Under (finiteProblems (constraintsPath i j) name bound)
      [⟨constraintPlace i j key, name ++ " must be a finite number"⟩] := by
  unfold finiteProblems
  split
  · refine Under.problemIf ?_ (begins_self _) _
    rw [path_constraintPlace, hkey, String.append_assoc]
  · exact .nil

theorem under_orderProblems :
    Under (orderProblems (constraintsPath i j) c) [⟨constraintPlace i j .minimum, "minimum ("⟩] := by
  unfold orderProblems
  split
  · refine Under.problemIf (path_constraintPlace i j .minimum).symm ?_ _
    exact begins_append (begins_append (begins_append (begins_append (begins_self _))))
  · exact .nil

theorem under_patternProblems [Pattern.SizeLimit] :
    Under (patternProblems (constraintsPath i j) c)
      [⟨constraintPlace i j .pattern, "Invalid regular expression: "⟩] := by
  unfold patternProblems
  split
  · exact .nil
  · split
    · exact .nil
    · exact Under.one ⟨(path_constraintPlace i j .pattern).symm, begins_append (begins_self _)⟩

theorem under_allowedProblems :
    Under (allowedProblems (constraintsPath i j) c)
      [⟨constraintPlace i j .enum, "Enum values must not be empty"⟩] :=
  Under.problemIf (path_constraintPlace i j .enum).symm (begins_self _) _

theorem under_defaultProblems (type : ParamType) :
    Under (defaultProblems (constraintsPath i j) type c)
      [⟨constraintPlace i j .default, "Default"⟩] := by
  unfold defaultProblems
  split
  · next fault _ =>
    exact Under.one ⟨(path_constraintPlace i j .default).symm, fault.begins_message⟩
  · exact .nil

/-- The problems of the constraints of a parameter stand under the headings for constraints. -/
theorem under_constraintProblems [Pattern.SizeLimit] (type : ParamType) (constraints : Option Constraints) :
    Under (constraintProblems (parameterPath i j) type constraints)
      (constraintHeadings.map (.within (.parameter i j))) := by
  have henum (condition : Bool) :
      Under (problemIf condition (parameterPath i j ++ ".constraints.enum")
        "Enum parameters require at least one allowed value")
        [⟨constraintPlace i j .enum, "Enum parameters require at least one allowed value"⟩] := by
    refine Under.problemIf ?_ (begins_self _) condition
    rw [path_constraintPlace, constraintsPath, String.append_assoc]
    rfl
  unfold constraintProblems
  cases constraints with
  | none => exact (henum _).append .nil
  | some c =>
    refine (henum _).append ?_
    exact ((((((under_lengthProblems i j c).append
      (under_finiteProblems i j .minimum "minimum" rfl c.minimum)).append
      (under_finiteProblems i j .maximum "maximum" rfl c.maximum)).append
      (under_orderProblems i j c)).append (under_patternProblems i j c)).append
      (under_allowedProblems i j c)).append (under_defaultProblems i j c type)

end Constraints

/-- The headings of a parameter. -/
def parameterHeadingsAt (i j : Nat) : List (Heading FieldPlace) :=
  parameterHeadings.map (.within (.parameter i j))

/-- The headings of a tool apart from those of its parameters. -/
def toolHeadingsAt (i : Nat) : List (Heading FieldPlace) := toolHeadings.map (.within (.tool i))

/-- The headings of the parameters of a tool from the one with the given index on. -/
def parametersHeadings (i : Nat) : (index : Nat) → List Parameter → List (Heading FieldPlace)
  | _, [] => []
  | j, _ :: rest => parameterHeadingsAt i j ++ parametersHeadings i (j + 1) rest

/-- The headings of the tools from the one with the given index on. -/
def toolsHeadings : (index : Nat) → List Tool → List (Heading FieldPlace)
  | _, [] => []
  | i, t :: rest =>
    toolHeadingsAt i ++ parametersHeadings i 0 t.parameters ++ toolsHeadings (i + 1) rest

def serverHeadings : List (Heading FieldPlace) :=
  textHeadings FieldPlace.serverName "Server name" ++
    textHeadings FieldPlace.description "Description" ++
    ([⟨.tools, "At least one tool is required"⟩, ⟨.tools, "At most "⟩] : List (Heading FieldPlace))

theorem toolIndex?_of_mem_serverHeadings {h : Heading FieldPlace} (hh : h ∈ serverHeadings) :
    h.place.toolIndex? = none := by
  have hnone : ∀ h ∈ serverHeadings, h.place.toolIndex? = none := by decide
  exact hnone h hh

theorem under_plainProblems (limits : Limits) (i j : Nat) (p : Parameter) :
    Under (p.plainProblems limits (parameterPath i j))
      ([⟨.parameter i j .description, "Parameter description must be at most "⟩] ++
        [⟨.parameter i j .type, "Unsupported parameter type; expected one of: "⟩]) := by
  refine Under.append ?_ ?_
  · refine Under.problemIf ?_ (begins_append (begins_append (begins_self _))) _
    rfl
  · refine Under.problemIf ?_ (begins_append (begins_self _)) _
    rfl

/-- The problems of one parameter, those of its name first. -/
theorem under_parameter [Pattern.SizeLimit] (limits : Limits) (i j : Nat) (tool : Option String)
    (seen : List String) (p : Parameter) (used : Option String) :
    Under ((nameProblems seen (parameterPath i j ++ ".name") "Parameter name" "parameter" p.name
        limits.nameLength).1 ++
      shadowProblems (parameterPath i j ++ ".name") tool used ++
      p.bodyProblems limits (parameterPath i j)) (parameterHeadingsAt i j) := by
  rw [Parameter.bodyProblems_eq]
  exact ((under_nameProblems seen (.parameter i j .name) ..).append
    (under_shadowProblems (.parameter i j .name) tool used)).append
    ((under_plainProblems limits i j p).append (under_constraintProblems i j p.type p.constraints))

theorem under_parameterProblems [Pattern.SizeLimit] (limits : Limits) (i : Nat) (tool : Option String)
    (seen : List String) (j : Nat) (ps : List Parameter) :
    Under (parameterProblems limits (toolPath i) tool seen j ps) (parametersHeadings i j ps) := by
  induction ps generalizing seen j with
  | nil => exact .nil
  | cons p rest ih =>
    rw [parameterProblems, ← parameterPath]
    exact (under_parameter limits i j tool seen p _).append (ih _ _)

/-- The problems of a tool apart from those of its name and of its parameters. -/
def Tool.plainProblems (limits : Limits) (path : String) (t : Tool) : List FieldError :=
  textProblems (path ++ ".description") "Tool description" t.description limits.descriptionLength ++
  problemIf (limits.parametersPerTool < t.parameters.length) (path ++ ".parameters")
    ("At most " ++ toString limits.parametersPerTool ++ " parameters are allowed per tool")

theorem Tool.bodyProblems_eq [Pattern.SizeLimit] (limits : Limits) (path : String) (name : Option String)
    (t : Tool) :
    t.bodyProblems limits path name =
      t.plainProblems limits path ++ parameterProblems limits path name [] 0 t.parameters := rfl

/-- The problems of one tool apart from those of its parameters, those of its name first. -/
theorem under_toolPlain (limits : Limits) (i : Nat) (seen : List String) (t : Tool) :
    Under ((nameProblems seen (toolPath i ++ ".name") "Tool name" "tool" t.name
      limits.nameLength).1 ++ t.plainProblems limits (toolPath i)) (toolHeadingsAt i) := by
  have hname := under_nameProblems seen (.tool i .name) "Tool name" "tool" t.name limits.nameLength
  have hdescription := under_textProblems (.tool i .description) "Tool description" t.description
    limits.descriptionLength
  have hcount : Under (problemIf (limits.parametersPerTool < t.parameters.length)
      (toolPath i ++ ".parameters") ("At most " ++ toString limits.parametersPerTool ++
        " parameters are allowed per tool")) [⟨.tool i .parameters, "At most "⟩] := by
    refine Under.problemIf ?_ (begins_append (begins_append (begins_self _))) _
    rfl
  exact hname.append (hdescription.append hcount)

theorem under_tool [Pattern.SizeLimit] (limits : Limits) (i : Nat) (seen : List String) (t : Tool)
    (used : Option String) :
    Under ((nameProblems seen (toolPath i ++ ".name") "Tool name" "tool" t.name
        limits.nameLength).1 ++ t.bodyProblems limits (toolPath i) used)
      (toolHeadingsAt i ++ parametersHeadings i 0 t.parameters) := by
  rw [Tool.bodyProblems_eq, ← List.append_assoc]
  exact (under_toolPlain limits i seen t).append (under_parameterProblems limits i used [] 0 t.parameters)

theorem under_toolProblems [Pattern.SizeLimit] (limits : Limits) (seen : List String) (i : Nat)
    (ts : List Tool) :
    Under (toolProblems limits seen i ts).1 (toolsHeadings i ts) := by
  induction ts generalizing seen i with
  | nil => exact .nil
  | cons t rest ih =>
    rw [toolProblems]
    exact (under_tool limits i seen t _).append (ih _ _)

theorem under_countProblems (limits : Limits) (ts : List Tool) :
    Under (countProblems limits ts)
      [⟨.tools, "At least one tool is required"⟩, ⟨.tools, "At most "⟩] := by
  unfold countProblems
  split
  · exact .cons ⟨rfl, begins_self _⟩ .nil
  · refine .cons_right (Under.problemIf ?_ (begins_append (begins_append (begins_self _))) _)
    rfl

namespace Server

/-- The problems of a description apart from the clashes of its tools with each other. -/
def ownProblems [Pattern.SizeLimit] (limits : Limits) (s : Server) : List FieldError :=
  textProblems "serverName" "Server name" s.name limits.nameLength ++
    textProblems "description" "Description" s.description limits.descriptionLength ++
    countProblems limits s.tools ++ (toolProblems limits [] 0 s.tools).1

/-- The clashes of the tools of a description with each other. -/
def clashes [Pattern.SizeLimit] (limits : Limits) (s : Server) : List FieldError :=
  clashProblems (toolProblems limits [] 0 s.tools).2

theorem problems_eq [Pattern.SizeLimit] (limits : Limits) (s : Server) :
    s.problems limits = s.ownProblems limits ++ s.clashes limits := rfl

/-- The headings of a description. -/
def headings (s : Server) : List (Heading FieldPlace) := serverHeadings ++ toolsHeadings 0 s.tools

theorem under_serverProblems (limits : Limits) (s : Server) :
    Under (textProblems "serverName" "Server name" s.name limits.nameLength ++
      textProblems "description" "Description" s.description limits.descriptionLength ++
      countProblems limits s.tools) serverHeadings :=
  ((under_textProblems .serverName "Server name" s.name limits.nameLength).append
    (under_textProblems .description "Description" s.description limits.descriptionLength)).append
    (under_countProblems limits s.tools)

theorem under_ownProblems [Pattern.SizeLimit] (limits : Limits) (s : Server) :
    Under (s.ownProblems limits) s.headings :=
  (under_serverProblems limits s).append (under_toolProblems limits [] 0 s.tools)

end Server

theorem under_clashProblems (names : List (Nat × String)) :
    Under (clashProblems names)
      (names.map fun name => ⟨.tool name.1 .name, "Tool name " ++ "\""⟩) := by
  refine Under.flatMap (fun (index, name) => ?_) names
  dsimp only
  split
  · refine Under.one ⟨rfl, ?_⟩
    exact begins_append (begins_append (begins_inspect "Tool name " name))
  · exact .nil

namespace Server

/-- The headings of the clashes of a description. -/
def clashHeadings [Pattern.SizeLimit] (limits : Limits) (s : Server) : List (Heading FieldPlace) :=
  (toolProblems limits [] 0 s.tools).2.map fun name => ⟨.tool name.1 .name, "Tool name " ++ "\""⟩

theorem under_clashes [Pattern.SizeLimit] (limits : Limits) (s : Server) :
    Under (s.clashes limits) (s.clashHeadings limits) := under_clashProblems _

end Server

end Scaffold
