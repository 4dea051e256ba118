import Scaffold.Json.Printer
import Scaffold.Settings.Basic
import Scaffold.Text.Identifier

namespace Scaffold.Project

/-- A JSON value as the text of a file. -/
def jsonFile (value : Json) : String := value.pretty ++ "\n"

/-- An object of strings. -/
def stringMembers (members : List (String × String)) : Json :=
  .object (members.map fun (key, value) => (key, .string value))

/-- The text of `package.json`. -/
def packageManifest (serverName description : String) (settings : Settings) : String :=
  jsonFile (.object [
    ("name", .string (Text.slugOf serverName)),
    ("version", .string settings.serverVersion),
    ("description", .string (Text.flatten description)),
    ("type", .string "module"),
    ("main", .string "dist/server.js"),
    ("scripts", stringMembers [
      ("build", "tsc"),
      ("start", "node dist/server.js"),
      ("dev", "tsx server.ts")]),
    ("dependencies", stringMembers [
      ("@modelcontextprotocol/sdk", "^" ++ settings.typeScriptSdkVersion),
      ("zod", "^" ++ settings.zodVersion)]),
    ("devDependencies", stringMembers [
      ("@types/node", "^" ++ settings.nodeVersion),
      ("tsx", "^4.7.0"),
      ("typescript", "^5.4.0")]),
    ("engines", stringMembers [("node", ">=" ++ settings.nodeVersion)])])

/-- The text of `tsconfig.json` for a source file. -/
def compilerManifest (sourceFile : String) : String :=
  jsonFile (.object [
    ("compilerOptions", .object [
      ("target", .string "ES2022"),
      ("module", .string "NodeNext"),
      ("moduleResolution", .string "NodeNext"),
      ("outDir", .string "dist"),
      ("strict", .bool true),
      ("esModuleInterop", .bool true),
      ("skipLibCheck", .bool true)]),
    ("files", .array [.string sourceFile])])

end Scaffold.Project
