import AgentTool.CommandLine.Arguments
import AgentTool.CommandLine.Report
import AgentTool.Engine
import AgentTool.Loader

/-!
# Commands

| command | prints |
| --- | --- |
| `validate` | a line for each tool of some files, or why a file is refused |
| `describe` | what the host is told about the tools of a file |
| `invoke` | the answer of a tool, and the way that led to it on standard error |
| `schema` | the schema of a document |
| `version`, `help` | the version, the usage |

Files, variables and the network come from outside.
-/

namespace AgentTool
namespace CommandLine

/-- The text of the command `help`. -/
def usage : String :=
"datamap-cli — DataMap 工具定义命令行工具

USAGE:
    datamap-cli <COMMAND> [OPTIONS]

COMMANDS:
    validate <path>...                  Validate and compile definition files/directories
    describe <path> [--tool <name>]     Print compiled descriptors as JSON
    invoke <path> <tool> [--args <json>] [--global <json>]
                                        Run one invocation and print the host output
    schema                              Print the JSON Schema of a definition document
    version                             Show version information
    help                                Show this help message

ENVIRONMENT:
    DATAMAP_LOG                         Log filter (falls back to RUST_LOG, default \"warn\")
    DATAMAP_HTTP_TIMEOUT_SECS           Webhook timeout in seconds (default 30)
    DATAMAP_MAX_RETRIES                 Retries per webhook, 0-3 (default 1)
"

/-- What a command may ask of its surroundings. -/
structure Surroundings (m : Type → Type) where
  files : FileAccess m
  lookup : String → Option String
  network : Network

variable {m : Type → Type} [Monad m]

/-- The tools of a path, or why it is refused. -/
def compile (s : Surroundings m) (path : String) : m (Except String (List Tool)) := do
  let loader : Loader m := { files := s.files }
  return (← loader.compile path).mapError fun e => s!"cannot compile {path}: {e.message}"

/-- The lines for some paths, and how many of them are refused. -/
def validations (s : Surroundings m) : List String → m (String × Nat)
  | [] => return ("", 0)
  | path :: rest => do
    let (lines, refused) := match ← compile s path with
      | .ok tools => (String.join (tools.map fun t => s!"  ✓ {t.name} ({path})\n"), 0)
      | .error reason => (s!"  ✗ {path}: {reason}\n", 1)
    let (more, others) ← validations s rest
    return (lines ++ more, refused + others)

/-- Checks the definitions of each path. -/
def validate (s : Surroundings m) (words : List String) : m Report := do
  let paths := positionals words
  if paths.isEmpty then return .failed "validate needs at least one path"
  let (lines, refused) ← validations s paths
  if refused > 0 then return .failed s!"{refused} path(s) failed validation" lines
  return .line (lines ++ "All definitions are valid.")

/-- The descriptor of the only tool, or the list of all. -/
def described (tools : List Tool) : String :=
  match tools with
  | [t] => t.descriptor.pretty
  | ts => (Json.arr (ts.map Tool.descriptor)).pretty

/-- Shows what the host is told about the tools of a path, or about one of them. -/
def describe (s : Surroundings m) (words : List String) : m Report := do
  match positionals words with
  | [] => return .failed "describe needs a path"
  | path :: _ =>
    match ← compile s path with
    | .error reason => return .failed reason
    | .ok tools =>
      match flagValue? "--tool" words with
      | none => return .line (described tools)
      | some name =>
        match tools.find? fun t => t.name == name with
        | some t => return .line (described [t])
        | none => return .failed s!"no tool named '{name}' in {path}"

/-- The value of a flag, which is JSON text; an empty object without the flag. -/
def jsonFlag (flag : String) (words : List String) : Except String Json :=
  match flagValue? flag words with
  | none => .ok (.obj [])
  | some text =>
    match Json.read? text with
    | some v => .ok v
    | none => .error s!"{flag} is not valid JSON: expected one value"

/-- The report of an invocation. -/
def reportOf (network : Network) (e : Engine) (i : Invocation) : Report :=
  let (result, _) := e.invoke "1" i { network }
  { output := result.toHostJson.pretty ++ "\n"
    errors := s!"outcome: {result.outcome.toJson.compact} ({result.millis} ms)\n" }

/-- Runs a tool of a path. -/
def invoke (s : Surroundings m) (words : List String) : m Report := do
  match positionals words with
  | path :: tool :: _ =>
    match jsonFlag "--args" words, jsonFlag "--global" words with
    | .error reason, _ => return .failed reason
    | .ok _, .error reason => return .failed reason
    | .ok arguments, .ok global =>
      match ← compile s path with
      | .error reason => return .failed reason
      | .ok tools =>
        match Engine.build (.ofLookup s.lookup) tools [] with
        | .error e => return .failed e.fullMessage
        | .ok engine => return reportOf s.network engine { tool, arguments, global }
  | _ => return .failed "invoke needs a path and a tool name"

/-- Runs the command that the words of a command line name. -/
def run (s : Surroundings m) : List String → m Report
  | [] => return { output := usage, code := 1 }
  | "validate" :: words => validate s words
  | "describe" :: words => describe s words
  | "invoke" :: words => invoke s words
  | "schema" :: _ => return .line Document.schema.withDefinitions.pretty
  | word :: _ =>
    if ["version", "--version", "-V"].contains word then return .line s!"datamap-cli {version}"
    else if ["help", "--help", "-h"].contains word then return { output := usage }
    else return { output := usage, errors := s!"Unknown command: {word}\n\n", code := 1 }

end CommandLine
end AgentTool
