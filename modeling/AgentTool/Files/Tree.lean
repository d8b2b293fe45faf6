import AgentTool.Entries
import AgentTool.Files.Path

/-!
# Reading files

`FileAccess` is what a program may ask of the files around it.  A `FileTree`
answers from a value: directories hold named trees, and a path is followed part
by part from the root or from a directory.

| asked | missing | file | directory |
| --- | --- | --- | --- |
| `read` | `notFound` | its text | `isDirectory` |
| `list` | `notFound` | `notDirectory` | its names |

A part that follows a file, even an empty one, is `notDirectory`.
-/

namespace AgentTool

/-- Why a file cannot be read. -/
inductive FileError where
  | notFound
  | isDirectory
  | notDirectory
  | notText
  | badPath
  | other (reason : String)
  deriving DecidableEq, Repr

/-- The text of an error. -/
def FileError.message : FileError → String
  | notFound => "No such file or directory (os error 2)"
  | isDirectory => "Is a directory (os error 21)"
  | notDirectory => "Not a directory (os error 20)"
  | notText => "stream did not contain valid UTF-8"
  | badPath => "file name contained an unexpected NUL byte"
  | other reason => reason

/-- What may be asked of files. -/
structure FileAccess (m : Type → Type) where
  /-- the text of a file -/
  read : String → m (Except FileError String)
  /-- the names in a directory, each with whether it is a file -/
  list : String → m (Except FileError (List (String × Bool)))
  isDirectory : String → m Bool

/-- A file or a directory.  A file has no text if its bytes are not UTF-8. -/
inductive FileTree where
  | file (text : Option String)
  | directory (entries : List (String × FileTree))
  deriving Inhabited

namespace FileTree

/-- Whether a tree is a directory. -/
def isDirectory : FileTree → Bool
  | directory _ => true
  | file _ => false

/-- The tree with another tree at a path; the directories on the way are made. -/
def put (tree : FileTree) (path : List String) (new : FileTree) : FileTree :=
  match path with
  | [] => new
  | p :: ps =>
    let entries := match tree with
      | directory es => es
      | file _ => []
    directory (Entries.insert entries p
      (put ((Entries.get? p entries).getD (directory [])) ps new))

/-- Follows parts from a tree; `above` are the directories that hold it, the innermost first. -/
def follow (tree : FileTree) (above : List FileTree) : List String →
    Except FileError (FileTree × List FileTree)
  | [] => .ok (tree, above)
  | p :: ps =>
    match tree with
    | file _ => .error .notDirectory
    | directory entries =>
      if p == "" || p == "." then follow tree above ps
      else if p == ".." then
        match above with
        | [] => follow tree [] ps
        | t :: ts => follow t ts ps
      else match Entries.get? p entries with
        | some t => follow t (tree :: above) ps
        | none => .error .notFound

/-- The tree at a path, from the root or from the directory that the parts `start` lead to. -/
def at? (root : FileTree) (start : List String) (path : String) : Except FileError FileTree := do
  if path.isEmpty then .error .notFound
  else if path.toList.contains '\x00' then .error .badPath
  else
    let (tree, above) ←
      if FilePath.isAbsolute path then .ok (root, []) else root.follow [] start
    return (← tree.follow above (FilePath.parts path)).1

/-- Answers from a tree, with paths seen from the directory that the parts `start` lead to. -/
def access (root : FileTree) (start : List String) : FileAccess Id where
  read path := do
    match root.at? start path with
    | .ok (file (some text)) => return .ok text
    | .ok (file none) => return .error .notText
    | .ok (directory _) => return .error .isDirectory
    | .error e => return .error e
  list path := do
    match root.at? start path with
    | .ok (directory entries) => return .ok (entries.map fun e => (e.1, !e.2.isDirectory))
    | .ok (file _) => return .error .notDirectory
    | .error e => return .error e
  isDirectory path := do
    match root.at? start path with
    | .ok t => return t.isDirectory
    | .error _ => return false

end FileTree
end AgentTool
