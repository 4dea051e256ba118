import Scaffold.Source.Python
import Scaffold.Source.TypeScript

namespace Scaffold

namespace Language

/-- The name of the source file. -/
def sourceFile : Language → String
  | python => Python.sourceFile
  | typeScript => TypeScript.sourceFile

/-- The type of a parameter before enums are written out. -/
def baseType : Language → ParamType → String
  | python => Python.baseType
  | typeScript => TypeScript.baseType

/-- The constraints of a parameter. -/
def fragment : Language → Parameter → Fragment
  | python => Python.fragment
  | typeScript => TypeScript.fragment

/-- The declaration of a parameter. -/
def declare : Language → Parameter → ParamDecl
  | python => Python.declare
  | typeScript => TypeScript.declare

/-- The parameter list of a handler. -/
def signature : Language → ToolDecl → String
  | python => Python.signature
  | typeScript => TypeScript.signature

/-- The source of a server. -/
def print : Language → Module → Settings → String
  | python => Python.print
  | typeScript => TypeScript.print

end Language

/-- A tool resolved for a language. -/
def Tool.declare (l : Language) (t : Tool) : ToolDecl where
  name := Text.identifierOf t.name
  description := t.description
  params := t.parameters.map l.declare

/-- A server resolved for a language, which need not be its own. -/
def Server.moduleIn (l : Language) (s : Server) : Module where
  serverName := s.name
  description := s.description
  language := l
  tools := s.tools.map (Tool.declare l)

/-- A server resolved for its own language. -/
def Server.toModule (s : Server) : Module := s.moduleIn s.language

/-- The source of a server in its language. -/
def Server.emit (s : Server) (settings : Settings) : String := s.language.print s.toModule settings

end Scaffold
