import Scaffold.Command.Names
import Scaffold.Text.Split

/-!
Arguments of a command line. The value of an option stands in the next argument, behind an equals
sign, or right behind a short name. Short names can be run together. Behind a lone double dash
nothing is an option. A command line is read from left to right, and the first thing that is wrong
with it or that is a question decides.
-/

namespace Scaffold

/-- An option as it is written. -/
inductive WrittenOption where
  /-- A long name, with what stands behind the equals sign. -/
  | long (name : String) (value : Option String)
  /-- What stands behind one dash. -/
  | short (names : List Char)
deriving DecidableEq, Repr

/-- An argument of a command line. -/
inductive Argument where
  /-- Two dashes alone. -/
  | separator
  | option (written : WrittenOption)
  | word (text : String)
deriving DecidableEq, Repr

/-- The argument with a text. A dash alone is a word. -/
def Argument.ofText (text : String) : Argument :=
  match text.toList with
  | ['-', '-'] => .separator
  | '-' :: '-' :: name =>
    match Text.splitAt? ['='] name with
    | some (name, value) => .option (.long (String.ofList name) (some (String.ofList value)))
    | none => .option (.long (String.ofList name) none)
  | '-' :: name :: names => .option (.short (name :: names))
  | _ => .word text

/-- What has been given to the program or to a command: values of options, and a word. -/
structure Given where
  values : List (OptionName × String) := []
  word : Option String := none
deriving DecidableEq, Repr

namespace Given

/-- The value that was given to an option. -/
def get? (given : Given) (name : OptionName) : Option String := given.values.lookup name

/-- Whether an option was given. -/
def has (given : Given) (name : OptionName) : Bool := (given.get? name).isSome

/-- Gives a value to an option. An option is given once, and a path is not empty. -/
def add (given : Given) (name : OptionName) (value : String) : Except Interruption Given :=
  if given.has name || (name.kind == .path && value.isEmpty) then .error .misuse
  else .ok { given with values := given.values ++ [(name, value)] }

/-- Gives a word to a command, which takes one. -/
def addWord (command : CommandName) (given : Given) (word : String) : Except Interruption Given :=
  if given.word.isSome || !command.accepts word then .error .misuse
  else .ok { given with word := some word }

/-- Gives an option with the value that is written together with it. The option comes back if its
value is still to come. -/
def meet (given : Given) (name : OptionName) (value : Option String) :
    Except Interruption (Given × Option OptionName) :=
  match name.kind, value with
  | .question asks, none => .error asks
  | .flag, none => do return (← given.add name "", none)
  | .question _, some _ | .flag, some _ => .error .misuse
  | .text, some value | .path, some value => do return (← given.add name value, none)
  | .text, none | .path, none => .ok (given, some name)

/-- The value that is written right behind a short name. -/
def attached : List Char → Option String
  | [] => none
  | '=' :: value => some (String.ofList value)
  | value => some (String.ofList value)

/-- Gives options whose short names are run together. A name that takes a value ends them. -/
def meetShort (options : List OptionName) (given : Given) :
    List Char → Except Interruption (Given × Option OptionName)
  | [] => .ok (given, none)
  | c :: rest =>
    match options.find? (·.short? == some c) with
    | none => .error .misuse
    | some name =>
      match name.kind with
      | .text | .path => given.meet name (attached rest)
      | .flag | .question _ => do
        let (given, _) ← given.meet name none
        given.meetShort options rest

/-- Gives an option as it is written. -/
def meetWritten (options : List OptionName) (given : Given) :
    WrittenOption → Except Interruption (Given × Option OptionName)
  | .long text value =>
    match options.find? (·.long == text) with
    | some name => given.meet name value
    | none => .error .misuse
  | .short names => given.meetShort options names

/-- Reads what stands behind the name of a command, where an option may still wait for its value. -/
def behind (command : CommandName) (given : Given) :
    (waiting : Option OptionName) → List String → Except Interruption Given
  | none, [] => .ok given
  | some _, [] => .error .misuse
  | some name, text :: rest =>
    match Argument.ofText text with
    | .word value => do (← given.add name value).behind command none rest
    | _ => .error .misuse
  | none, text :: rest =>
    match Argument.ofText text with
    | .word word => do (← given.addWord command word).behind command none rest
    | .separator => rest.foldlM (addWord command) given
    | .option written => do
      let (given, waiting) ← given.meetWritten command.options written
      given.behind command waiting rest

end Given

/-- A command line that has been read: what was given before the name of the command, the name, and
what was given behind it. -/
structure CommandLine where
  outer : Given
  name : CommandName
  inner : Given
deriving DecidableEq, Repr

namespace CommandLine

/-- What comes of the word `help` with the words behind it, of which there can be one: what to help
with. -/
def helpOn : List String → Interruption
  | [] => .help
  | [topic] => if topic = "help" || (CommandName.ofText? topic).isSome then .help else .misuse
  | _ => .misuse

/-- Reads a command line up to the name of the command, where an option may still wait for its
value, and then what stands behind the name. -/
def readFrom (outer : Given) :
    (waiting : Option OptionName) → List String → Except Interruption CommandLine
  | _, [] => .error .misuse
  | some name, text :: rest =>
    match Argument.ofText text with
    | .word value => do readFrom (← outer.add name value) none rest
    | _ => .error .misuse
  | none, text :: rest =>
    match Argument.ofText text with
    | .word "help" => .error (helpOn rest)
    | .word word =>
      match CommandName.ofText? word with
      | some name => do return ⟨outer, name, ← ({} : Given).behind name none rest⟩
      | none => .error .misuse
    | .separator => .error .misuse
    | .option written => do
      let (outer, waiting) ← outer.meetWritten OptionName.outer written
      readFrom outer waiting rest

/-- Reads a command line. -/
def read (arguments : List String) : Except Interruption CommandLine :=
  readFrom {} none arguments

end CommandLine

end Scaffold
