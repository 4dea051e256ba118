import Scaffold.Template.Library

namespace Scaffold.Project

/-- Lines as a text, each of them ended. -/
def linesText (lines : List String) : List Char := lines.flatMap fun l => l.toList ++ ['\n']

/-- What a project is, which tools it has and how to start it. -/
def readmeTemplate : List Char := linesText [
  "# \x7b\x7bserver_name\x7d\x7d",
  "",
  "\x7b\x7bdescription\x7d\x7d",
  "",
  "This is a \x7b\x7blanguage_name\x7d\x7d server skeleton for the Model Context Protocol",
  "(MCP), protocol version `\x7b\x7bprotocol_version\x7d\x7d`, built on",
  "`\x7b\x7bsdk_package\x7d\x7d` \x7b\x7bsdk_version\x7d\x7d.",
  "",
  "## Tools",
  "",
  "\x7b\x7b#if has_tools\x7d\x7d",
  "\x7b\x7b#each tools\x7d\x7d",
  "### `\x7b\x7bname\x7d\x7d`",
  "",
  "\x7b\x7bdescription\x7d\x7d",
  "",
  "\x7b\x7b#if has_params\x7d\x7d",
  "| Parameter | Type | Description |",
  "| --- | --- | --- |",
  "\x7b\x7b#each params\x7d\x7d",
  "| `\x7b\x7bname\x7d\x7d` | `\x7b\x7btype\x7d\x7d` | \x7b\x7bdescription\x7d\x7d |",
  "\x7b\x7b/each\x7d\x7d",
  "\x7b\x7belse\x7d\x7d",
  "This tool takes no parameters.",
  "\x7b\x7b/if\x7d\x7d",
  "",
  "\x7b\x7b/each\x7d\x7d",
  "\x7b\x7belse\x7d\x7d",
  "This server does not define any tools yet.",
  "",
  "\x7b\x7b/if\x7d\x7d",
  "## Getting Started",
  "",
  "\x7b\x7b#if is_python\x7d\x7d",
  "Requires Python \x7b\x7bpython_version\x7d\x7d or newer.",
  "",
  "```bash",
  "./install.sh",
  "python \x7b\x7bsource_file\x7d\x7d",
  "```",
  "\x7b\x7belse\x7d\x7d",
  "Requires Node.js \x7b\x7bnode_version\x7d\x7d or newer.",
  "",
  "```bash",
  "./install.sh",
  "npm run build",
  "npm start",
  "```",
  "\x7b\x7b/if\x7d\x7d",
  "",
  "### Docker",
  "",
  "```bash",
  "docker build -t \x7b\x7bslug\x7d\x7d .",
  "docker run --rm -i \x7b\x7bslug\x7d\x7d",
  "```",
  "",
  "## Implementing Tools",
  "",
  "Every handler in `\x7b\x7bsource_file\x7d\x7d` validates its inputs and then echoes them",
  "back. Replace the example implementation in each handler with real logic."]

/-- The container of a Python server. -/
def pythonDockerfile : List Char := linesText [
  "FROM python:\x7b\x7bpython_version\x7d\x7d-slim",
  "",
  "WORKDIR /app",
  "",
  "COPY requirements.txt .",
  "RUN pip install --no-cache-dir -r requirements.txt",
  "",
  "COPY \x7b\x7bsource_file\x7d\x7d .",
  "",
  "CMD [\"python\", \"\x7b\x7bsource_file\x7d\x7d\"]"]

/-- The container of a TypeScript server, built in a stage of its own. -/
def typeScriptDockerfile : List Char := linesText [
  "FROM node:\x7b\x7bnode_version\x7d\x7d-alpine AS build",
  "",
  "WORKDIR /app",
  "",
  "COPY package.json tsconfig.json ./",
  "RUN npm install",
  "",
  "COPY \x7b\x7bsource_file\x7d\x7d .",
  "RUN npm run build",
  "",
  "FROM node:\x7b\x7bnode_version\x7d\x7d-alpine",
  "",
  "WORKDIR /app",
  "",
  "COPY package.json ./",
  "RUN npm install --omit=dev",
  "",
  "COPY --from=build /app/dist ./dist",
  "",
  "CMD [\"node\", \"dist/server.js\"]"]

/-- The script that installs what a Python server needs. -/
def pythonInstall : List Char := linesText [
  "#!/usr/bin/env sh",
  "# Installs dependencies for \x7b\x7bserver_name\x7d\x7d",
  "set -eu",
  "",
  "if ! command -v python3 >/dev/null 2>&1; then",
  "    echo \"python3 is required (version \x7b\x7bpython_version\x7d\x7d or newer)\" >&2",
  "    exit 1",
  "fi",
  "",
  "python3 -m venv .venv",
  ". .venv/bin/activate",
  "pip install --upgrade pip",
  "pip install -r requirements.txt",
  "",
  "echo \"Installed. Run: . .venv/bin/activate && python \x7b\x7bsource_file\x7d\x7d\""]

/-- The script that installs what a TypeScript server needs, and builds it. -/
def typeScriptInstall : List Char := linesText [
  "#!/usr/bin/env sh",
  "# Installs dependencies for \x7b\x7bserver_name\x7d\x7d",
  "set -eu",
  "",
  "if ! command -v node >/dev/null 2>&1; then",
  "    echo \"node is required (version \x7b\x7bnode_version\x7d\x7d or newer)\" >&2",
  "    exit 1",
  "fi",
  "",
  "npm install",
  "npm run build",
  "",
  "echo \"Installed. Run: npm start\""]

/-- The packages that a Python server needs. -/
def requirementsTemplate : List Char := linesText [
  "mcp==\x7b\x7bpython_sdk_version\x7d\x7d",
  "pydantic\x7b\x7bpydantic_version_spec\x7d\x7d",
  "requests",
  "aiohttp"]

/-- The templates by name. -/
def templates : List (String × List Char) := [
  ("readme", readmeTemplate),
  ("dockerfile/python", pythonDockerfile),
  ("dockerfile/typescript", typeScriptDockerfile),
  ("install/python", pythonInstall),
  ("install/typescript", typeScriptInstall),
  ("requirements", requirementsTemplate)]

/-- The library of all templates. -/
def library : Except Failure Template.Library :=
  templates.foldlM (fun l (name, text) => l.register name text) {}

end Scaffold.Project
