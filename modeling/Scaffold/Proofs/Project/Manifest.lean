import Scaffold.Project.Manifest
import Scaffold.Proofs.Json.Layout

namespace Scaffold.Project

open Json

/-- A file that holds a JSON value is parsed to the value. -/
theorem parse_jsonFile {v : Json} (h : Readable depthLimit v) : parse (jsonFile v) = .ok v :=
  parse_pretty_append h (List.forall_mem_singleton.mpr rfl)

theorem readableMembers_map_string (levels : Nat) (members : List (String × String)) :
    ReadableMembers levels (members.map fun (key, value) => (key, .string value)) := by
  induction members with
  | nil => trivial
  | cons member rest ih => exact ⟨by cases levels <;> trivial, ih⟩

/-- An object of strings can be read back if its keys differ. -/
theorem readable_stringMembers (levels : Nat) {members : List (String × String)}
    (h : (members.map Prod.fst).Nodup) : Readable (levels + 1) (stringMembers members) := by
  have hkeys : (members.map fun (key, value) => (key, Json.string value)).map Prod.fst =
      members.map Prod.fst := by
    rw [List.map_map]
    rfl
  refine ⟨?_, readableMembers_map_string levels members⟩
  rwa [hkeys]

/-- The manifest of a package has these members in this order, whatever server and settings it is for. -/
theorem parse_packageManifest (serverName description : String) (settings : Settings) :
    parse (packageManifest serverName description settings) = .ok (.object [
      ("name", .string (Text.slugOf serverName)),
      ("version", .string settings.serverVersion),
      ("description", .string (Text.flatten description)),
      ("type", .string "module"),
      ("main", .string "dist/server.js"),
      ("scripts", .object [
        ("build", .string "tsc"),
        ("start", .string "node dist/server.js"),
        ("dev", .string "tsx server.ts")]),
      ("dependencies", .object [
        ("@modelcontextprotocol/sdk", .string ("^" ++ settings.typeScriptSdkVersion)),
        ("zod", .string ("^" ++ settings.zodVersion))]),
      ("devDependencies", .object [
        ("@types/node", .string ("^" ++ settings.nodeVersion)),
        ("tsx", .string "^4.7.0"),
        ("typescript", .string "^5.4.0")]),
      ("engines", .object [("node", .string (">=" ++ settings.nodeVersion))])]) := by
  -- The reader nests 127 levels deep, one of them for the manifest itself.
  have hstrings (members : List (String × String)) (h : (members.map Prod.fst).Nodup) :
      Readable 126 (stringMembers members) := readable_stringMembers 125 h
  refine parse_jsonFile ⟨by simp, ?_⟩
  exact ⟨trivial, trivial, trivial, trivial, trivial, hstrings _ (by simp), hstrings _ (by simp),
    hstrings _ (by simp), hstrings _ (by simp), trivial⟩

/-- The manifest of the compiler names the source file as it is. -/
theorem parse_compilerManifest (sourceFile : String) :
    parse (compilerManifest sourceFile) = .ok (.object [
      ("compilerOptions", .object [
        ("target", .string "ES2022"),
        ("module", .string "NodeNext"),
        ("moduleResolution", .string "NodeNext"),
        ("outDir", .string "dist"),
        ("strict", .bool true),
        ("esModuleInterop", .bool true),
        ("skipLibCheck", .bool true)]),
      ("files", .array [.string sourceFile])]) := by
  refine parse_jsonFile ⟨by simp, ⟨by simp, ?_⟩, ⟨trivial, trivial⟩, trivial⟩
  exact ⟨trivial, trivial, trivial, trivial, trivial, trivial, trivial, trivial⟩

end Scaffold.Project
