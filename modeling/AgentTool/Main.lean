import AgentTool.CommandLine.Commands

/-!
# The program

The program reads the files that a command names and the variables that hold
settings, runs the command, and prints its report.  It reads single files: a
directory is refused like a file that cannot be read, and no network is in
reach.
-/

namespace AgentTool
namespace CommandLine

/-- Why a file on the disk cannot be read. -/
def diskError : IO.Error → FileError
  | .noFileOrDirectory .. => .notFound
  | .inappropriateType _ code _ => if code = 21 then .isDirectory else .notDirectory
  | e => .other (toString e)

/-- The files on the disk. -/
def diskFiles : FileAccess IO where
  read path := do
    match ← (IO.FS.readBinFile path).toBaseIO with
    | .ok bytes => return match String.fromUTF8? bytes with
        | some text => .ok text
        | none => .error .notText
    | .error e => return .error (diskError e)
  list _ := return .error .notDirectory
  isDirectory _ := return false

/-- The variables that hold settings, with their values. -/
def settings : List String → IO (List (String × String))
  | [] => return []
  | name :: names => do
    let rest ← settings names
    return match ← IO.getEnv name with
      | some value => (name, value) :: rest
      | none => rest

end CommandLine
end AgentTool

open AgentTool in
/-- Runs the command that the arguments name. -/
def main (args : List String) : IO UInt32 := do
  let found ← CommandLine.settings Config.variableNames
  let report ← CommandLine.run {
    files := CommandLine.diskFiles
    lookup := fun name => Entries.get? name found
    network := Network.nowhere } args
  IO.print report.output
  IO.eprint report.errors
  return report.code
