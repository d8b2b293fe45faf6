import AgentTool.Document.Source
import AgentTool.Files.Tree
import AgentTool.Tool.Compile

/-!
# Documents from files

A loader reads single files and directories.  With a base directory it sees
paths that do not start at the root from there.  In a directory it reads the
files whose extension tells a format, in the order of their names.

| extension | format |
| --- | --- |
| `json` | JSON |
| `yaml`, `yml` | YAML |
| any other | JSON, and YAML if that fails |
-/

namespace AgentTool

/-- A reader of documents. -/
structure Loader (m : Type → Type) where
  files : FileAccess m
  base : Option String := none

namespace Loader

variable {m : Type → Type} [Monad m]

/-- The path that is meant by a path. -/
def resolve (l : Loader m) (path : String) : String :=
  match l.base with
  | some base => FilePath.join base path
  | none => path

/-- The documents of a text, with the format if it is known. -/
def documents (format : Option Format) (text : String) : Except DefinitionError (List Document) :=
  match format with
  | some f => Source.documents f text
  | none => match Source.documents .json text with
    | .ok ds => .ok ds
    | .error _ => Source.documents .yaml text

/-- An error of a file's text, with the path of the file. -/
def inFile (path : String) (format : Option Format) : DefinitionError → DefinitionError
  | .load p reason hint => .load p reason hint
  | e => .load path e.message
      (if format.isNone then some "Name the file .json, .yaml or .yml to pick its format" else none)

/-- The documents of a file. -/
def loadFile (l : Loader m) (path : String) : m (Except DefinitionError (List Document)) := do
  let path := l.resolve path
  match ← l.files.read path with
  | .error e =>
    return .error (.load path e.message (some "Check that the file exists and is readable"))
  | .ok text =>
    let format := Format.ofPath? path
    return (documents format text).mapError (inFile path format)

/-- The documents of several files, up to the first that fails. -/
def loadAll (l : Loader m) : List String → m (Except DefinitionError (List Document))
  | [] => return .ok []
  | p :: ps => do
    match ← l.loadFile p with
    | .error e => return .error e
    | .ok ds => return (← l.loadAll ps).map (ds ++ ·)

/-- The names that are files of a known format, sorted. -/
def wanted (names : List (String × Bool)) : List String :=
  ((names.filter fun n => n.2 && (Format.ofPath? n.1).isSome).map (·.1)).mergeSort
    fun a b => decide (a ≤ b)

/-- The documents of a directory. -/
def loadDirectory (l : Loader m) (path : String) : m (Except DefinitionError (List Document)) := do
  let path := l.resolve path
  match ← l.files.list path with
  | .error e => return .error (.load path e.message none)
  | .ok names => l.loadAll ((wanted names).map (FilePath.join path))

/-- The documents of a directory or a file. -/
def load (l : Loader m) (path : String) : m (Except DefinitionError (List Document)) := do
  let path := l.resolve path
  if ← l.files.isDirectory path then l.loadDirectory path else l.loadFile path

/-- The tools of a directory or a file. -/
def compile (l : Loader m) (path : String) : m (Except DefinitionError (List Tool)) := do
  return (← l.load path).bind fun ds => ds.mapM fun d => d.compile none

end Loader
end AgentTool
