import Scaffold.Command.Names

namespace Scaffold

/-- The name by which the program is run. -/
def programName : String := "mcp-forge"

/-- The line by which the program gives its version. -/
def versionText : String := programName ++ " 0.1.0\n"

/-- How the program is run, in one line. -/
def usageText : String := "Usage: " ++ programName ++ " [OPTIONS] <COMMAND>\n"

namespace CommandName

/-- The words that can stand for a command, with a blank between them. -/
def allText : String := " ".intercalate (all.map text ++ ["help"])

end CommandName

/-- What the program says about a command line that cannot be read. -/
def misuseText : String :=
  "error: unexpected arguments\n\n" ++ usageText ++ "\nFor more information, try '--help'.\n"

/-- What the program says about how it is used. -/
def helpText : String :=
  "Generates servers from descriptions of their tools.\n\n" ++ usageText ++
  "\nCommands: " ++ CommandName.allText ++ "\n" ++
  "\nOptions:\n" ++
  "  -v, --verbose          Tell what is done\n" ++
  "      --format <FORMAT>  Report as json, text, or pretty (the default)\n" ++
  "  -h, --help             Print help\n" ++
  "  -V, --version          Print version\n"

/-- The script by which a shell completes the names of commands. -/
def Shell.completions (shell : Shell) : String :=
  let words := CommandName.allText
  match shell with
  | bash => "complete -W '" ++ words ++ "' " ++ programName ++ "\n"
  | zsh =>
    "#compdef " ++ programName ++ "\n_arguments '1:command:(" ++ words ++ ")' '*:file:_files'\n"
  | fish => "complete -c " ++ programName ++ " -n __fish_use_subcommand -f -a '" ++ words ++ "'\n"
  | elvish =>
    "set edit:completion:arg-completer[" ++ programName ++ "] = \x7b|@arguments| put " ++ words ++
      " \x7d\n"
  | powershell =>
    "Register-ArgumentCompleter -Native -CommandName " ++ programName ++
      " -ScriptBlock \x7b '" ++ words ++ "' -split ' ' \x7d\n"

end Scaffold
