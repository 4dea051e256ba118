import Scaffold.Pattern.Meaning
import Scaffold.Validation.Default
import Scaffold.Validation.Limits
import Scaffold.Validation.Name

/-!
The rules that a server description has to keep before source is generated from it. All problems are
found, in the order in which their fields stand in the description; clashes between the names of
tools and the generated names of other tools come last.
-/

namespace Scaffold

/-- A problem of one field, if the condition holds. -/
def problemIf (condition : Bool) (field message : String) : List FieldError :=
  if condition then [⟨field, message⟩] else []

/-- The problems of a text that must be there and must not be too long. -/
def textProblems (field label value : String) (limit : Nat) : List FieldError :=
  if Text.allBlank value then [⟨field, label ++ " is required"⟩]
  else problemIf (limit < value.length) field
    (label ++ " must be at most " ++ toString limit ++ " characters")

/-- The problems of a name, and its identifier if that can be used next to those in `seen`. -/
def nameProblems (seen : List String) (field label kind name : String) (limit : Nat) :
    List FieldError × Option String :=
  let problems := textProblems field label name limit
  if Text.allBlank name then (problems, none)
  else
    let identifier := Text.identifierOf name
    match nameFault? seen identifier with
    | some fault => (problems ++ [⟨field, fault.message kind name identifier⟩], none)
    | none => (problems, some identifier)

/-- The problems of the limits of length. -/
def lengthProblems (path : String) (c : Constraints) : List FieldError :=
  match c.minLength, c.maxLength with
  | some least, some most =>
    problemIf (most < least) (path ++ ".minLength")
      ("minLength (" ++ toString least.toNat ++ ") must not exceed maxLength (" ++
        toString most.toNat ++ ")")
  | _, _ => []

/-- The problem of a bound that is no finite number. -/
def finiteProblems (path key : String) (bound : Option Binary64) : List FieldError :=
  match bound with
  | some x => problemIf (!x.isFinite) (path ++ "." ++ key) (key ++ " must be a finite number")
  | none => []

/-- The problems of the order of the bounds. -/
def orderProblems (path : String) (c : Constraints) : List FieldError :=
  match c.minimum, c.maximum with
  | some least, some most =>
    problemIf (least.exceeds most) (path ++ ".minimum")
      ("minimum (" ++ least.text ++ ") must not exceed maximum (" ++ most.text ++ ")")
  | _, _ => []

/-- The problems of a pattern. -/
def patternProblems [Pattern.SizeLimit] (path : String) (c : Constraints) : List FieldError :=
  match c.pattern with
  | none => []
  | some p =>
    match Pattern.check p with
    | .ok _ => []
    | .error e => [⟨path ++ ".pattern", "Invalid regular expression: " ++ e.message⟩]

/-- The problems of the values of an enum. -/
def allowedProblems (path : String) (c : Constraints) : List FieldError :=
  problemIf ((c.allowed.getD []).any Text.allBlank) (path ++ ".enum")
    "Enum values must not be empty"

/-- The problems of a default. -/
def defaultProblems (path : String) (type : ParamType) (c : Constraints) : List FieldError :=
  match c.default.bind (defaultFault? type c) with
  | some fault => [⟨path ++ ".default", fault.message⟩]
  | none => []

/-- The problems of the constraints of a parameter of this type. -/
def Constraints.problems [Pattern.SizeLimit] (path : String) (type : ParamType) (c : Constraints) :
    List FieldError :=
  lengthProblems path c ++ finiteProblems path "minimum" c.minimum ++
    finiteProblems path "maximum" c.maximum ++ orderProblems path c ++ patternProblems path c ++
    allowedProblems path c ++ defaultProblems path type c

/-- The names of the known types, for people. -/
def knownTypes : String := ", ".intercalate (ParamType.known.map ParamType.name)

/-- The problem of a parameter that takes the place of a name in its handler. -/
def shadowProblems (field : String) (tool name : Option String) : List FieldError :=
  match name with
  | none => []
  | some name =>
    problemIf (name = handlerLocal || tool.any fun t => isGeneratedFor t name) field
      ("Parameter name " ++ Text.inspect name ++ " collides with a name in the generated handler")

/-- The problems of a parameter apart from those of its name. -/
def Parameter.bodyProblems [Pattern.SizeLimit] (limits : Limits) (path : String) (p : Parameter) :
    List FieldError :=
  problemIf (limits.descriptionLength < p.description.length) (path ++ ".description")
    ("Parameter description must be at most " ++ toString limits.descriptionLength ++
      " characters") ++
  problemIf (p.type = .unknown) (path ++ ".type")
    ("Unsupported parameter type; expected one of: " ++ knownTypes) ++
  problemIf (p.type = .enum && (p.constraints.bind Constraints.alternatives).isNone)
    (path ++ ".constraints.enum") "Enum parameters require at least one allowed value" ++
  match p.constraints with
  | some c => c.problems (path ++ ".constraints") p.type
  | none => []

/-- The problems of the parameters of a tool from the one with the given index on. `tool` is the
identifier of the tool if it can be used, `seen` holds the identifiers of the parameters before. -/
def parameterProblems [Pattern.SizeLimit] (limits : Limits) (path : String) (tool : Option String) :
    (seen : List String) → (index : Nat) → List Parameter → List FieldError
  | _, _, [] => []
  | seen, index, p :: rest =>
    let path' := path ++ ".parameters[" ++ toString index ++ "]"
    let (problems, name) :=
      nameProblems seen (path' ++ ".name") "Parameter name" "parameter" p.name limits.nameLength
    problems ++ shadowProblems (path' ++ ".name") tool name ++ p.bodyProblems limits path' ++
      parameterProblems limits path tool (name.toList ++ seen) (index + 1) rest

/-- The problems of a tool apart from those of its name. -/
def Tool.bodyProblems [Pattern.SizeLimit] (limits : Limits) (path : String) (name : Option String)
    (t : Tool) : List FieldError :=
  textProblems (path ++ ".description") "Tool description" t.description
    limits.descriptionLength ++
  problemIf (limits.parametersPerTool < t.parameters.length) (path ++ ".parameters")
    ("At most " ++ toString limits.parametersPerTool ++ " parameters are allowed per tool") ++
  parameterProblems limits path name [] 0 t.parameters

/-- The path of a tool. -/
def toolPath (index : Nat) : String := "tools[" ++ toString index ++ "]"

/-- The problems of the tools from the one with the given index on, and the identifiers that can be
used, with the index of each. `seen` holds the identifiers of the tools before. -/
def toolProblems [Pattern.SizeLimit] (limits : Limits) :
    (seen : List String) → (index : Nat) → List Tool → List FieldError × List (Nat × String)
  | _, _, [] => ([], [])
  | seen, index, t :: rest =>
    let path := toolPath index
    let (problems, name) :=
      nameProblems seen (path ++ ".name") "Tool name" "tool" t.name limits.nameLength
    let (others, names) := toolProblems limits (name.toList ++ seen) (index + 1) rest
    (problems ++ t.bodyProblems limits path name ++ others,
      name.toList.map (fun n => (index, n)) ++ names)

/-- The problems of tools that take the name of the model or the schema of another tool. -/
def clashProblems (names : List (Nat × String)) : List FieldError :=
  names.flatMap fun (index, name) =>
    match names.find? fun (_, owner) => isGeneratedFor owner name with
    | some (_, owner) =>
      [⟨toolPath index ++ ".name", "Tool name " ++ Text.inspect name ++
        " collides with a generated name of tool " ++ Text.inspect owner⟩]
    | none => []

/-- The problems of the number of tools. -/
def countProblems (limits : Limits) (tools : List Tool) : List FieldError :=
  if tools.isEmpty then [⟨"tools", "At least one tool is required"⟩]
  else problemIf (limits.tools < tools.length) "tools"
    ("At most " ++ toString limits.tools ++ " tools are allowed")

namespace Server

/-- The problems of a server description. -/
def problems [Pattern.SizeLimit] (limits : Limits) (s : Server) : List FieldError :=
  let (found, names) := toolProblems limits [] 0 s.tools
  textProblems "serverName" "Server name" s.name limits.nameLength ++
    textProblems "description" "Description" s.description limits.descriptionLength ++
    countProblems limits s.tools ++ found ++ clashProblems names

/-- Checks that a server description keeps the rules. -/
def validate [Pattern.SizeLimit] (limits : Limits) (s : Server) : Except Failure Unit :=
  match s.problems limits with
  | [] => .ok ()
  | errors => .error (.validation errors)

end Server

end Scaffold
