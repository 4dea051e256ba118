import Scaffold.Command.Shell

namespace Scaffold

/-- Why a command line leads to no command. -/
inductive Interruption where
  /-- The command line cannot be read. -/
  | misuse
  /-- The command line asks how it is written. -/
  | help
  /-- The command line asks for the version of the program. -/
  | version
deriving DecidableEq, Repr

/-- What stands behind the name of an option. -/
inductive OptionKind where
  /-- Nothing: the option is on if it is there. -/
  | flag
  /-- Any text. -/
  | text
  /-- A path, which is never empty. -/
  | path
  /-- Nothing: the option is a question, and the rest of the line does not count. -/
  | question (asks : Interruption)
deriving DecidableEq, Repr

/-- The name of an option. -/
inductive OptionName where
  | verbose
  | format
  | output
  | settings
  | protocolVersion
  | force
  | file
  | help
  | version
deriving DecidableEq, Repr

namespace OptionName

/-- How the option is written behind two dashes. -/
def long : OptionName → String
  | verbose => "verbose"
  | format => "format"
  | output => "output"
  | settings => "settings"
  | protocolVersion => "protocol-version"
  | force => "force"
  | file => "file"
  | help => "help"
  | version => "version"

/-- How the option is written behind one dash, if it is. -/
def short? : OptionName → Option Char
  | verbose => some 'v'
  | output => some 'o'
  | force => some 'f'
  | help => some 'h'
  | version => some 'V'
  | format | settings | protocolVersion | file => none

/-- What stands behind the name. -/
def kind : OptionName → OptionKind
  | verbose | force => .flag
  | format | protocolVersion | file => .text
  | output | settings => .path
  | help => .question .help
  | version => .question .version

/-- The options that can stand before the name of a command. -/
def outer : List OptionName := [verbose, format, help, version]

end OptionName

/-- The name of a command. -/
inductive CommandName where
  | generate
  | validate
  | preview
  | completions
deriving DecidableEq, Repr

namespace CommandName

/-- All names, in the order in which they are listed. -/
def all : List CommandName := [generate, validate, preview, completions]

/-- How the name is written. -/
def text : CommandName → String
  | generate => "generate"
  | validate => "validate"
  | preview => "preview"
  | completions => "completions"

/-- The name that is written so. -/
def ofText? (s : String) : Option CommandName := all.find? (·.text == s)

/-- The options that only this command has. -/
def ownOptions : CommandName → List OptionName
  | generate => [.output, .settings, .protocolVersion, .force]
  | preview => [.file, .settings, .protocolVersion]
  | validate | completions => []

/-- The options that can stand behind the name. -/
def options (command : CommandName) : List OptionName :=
  command.ownOptions ++ [.verbose, .format, .help]

/-- Whether the command takes a word: a path that is not empty, or the name of a shell. -/
def accepts (command : CommandName) (word : String) : Bool :=
  match command with
  | completions => (Shell.ofName? word).isSome
  | generate | validate | preview => !word.isEmpty

end CommandName

end Scaffold
