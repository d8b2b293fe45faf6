import AgentTool.SetupError

/-!
# What a command prints

A command fills standard output and standard error and ends with an exit code.
A failed one ends with the code 1 and its reason on standard error; the reasons
behind it follow after colons.
-/

namespace AgentTool

/-- What a command prints, and its exit code. -/
structure Report where
  output : String := ""
  errors : String := ""
  code : UInt32 := 0
  deriving DecidableEq, Repr, Inhabited

namespace Report

/-- A line on standard output. -/
def line (text : String) : Report := { output := text ++ "\n" }

/-- A failure after some output. -/
def failed (reason : String) (output : String := "") : Report :=
  { output, errors := s!"Error: {reason}\n", code := 1 }

end Report

/-- An error of the setup with the reasons behind it. -/
def SetupError.chain : SetupError → List String
  | definition e => [(definition e).message, e.message]
  | configuration m c => [(configuration m c).message]
  | transport reason => [(transport reason).message, s!"Transport error: {reason}"]

/-- The text of an error with the reasons behind it. -/
def SetupError.fullMessage (e : SetupError) : String := ": ".intercalate e.chain

end AgentTool
