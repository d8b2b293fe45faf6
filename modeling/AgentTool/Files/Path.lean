import AgentTool.Text.Split

/-!
# Paths of files

A path is a text whose parts stand between slashes.  Empty parts and dots lead
nowhere, so they do not count when the name of a file is asked for.

| path | name | extension |
| --- | --- | --- |
| `a/tools.json` | `tools.json` | `json` |
| `a/tools.json/.` | `tools.json` | `json` |
| `.json` | `.json` | none |
| `a/..` | none | none |
-/

namespace AgentTool
namespace FilePath

/-- The parts of a path, the empty ones included. -/
def parts (path : String) : List String := (Text.fields '/' path.toList).map String.ofList

/-- Whether a path starts at the root. -/
def isAbsolute (path : String) : Bool := path.toList.head? == some '/'

/-- A path seen from a directory; one that starts at the root stays as it is. -/
def join (directory path : String) : String :=
  if isAbsolute path then path
  else if directory.isEmpty || directory.toList.getLast? == some '/' then directory ++ path
  else directory ++ "/" ++ path

/-- The last part that leads to something, unless it leads upwards. -/
def fileName? (path : String) : Option String :=
  match ((parts path).filter fun p => p != "" && p != ".").getLast? with
  | some ".." => none
  | name => name

/-- What follows the last dot of the name, if the dot does not open it. -/
def extension? (path : String) : Option String := do
  let reversed := (← fileName? path).toList.reverse
  match Text.breakAt '.' reversed with
  | (_, none) => none
  | (_, some []) => none
  | (ext, some _) => some (String.ofList ext.reverse)

end FilePath
end AgentTool
