/-!
# Why a definition is refused

Every cause refuses the whole tool.  Some causes can carry a hint, which is
written on a line of its own.
-/

namespace AgentTool

/-- Why a definition is refused. -/
inductive DefinitionError where
  | load (path reason : String) (hint : Option String)
  | invalid (message : String)
  | mismatch (path message : String) (hint : Option String)
  | duplicate (kind name : String) (hint : Option String)
  | pattern (path pattern reason : String)
  | template (path reason : String)
  | yaml (reason : String)
  | internal (reason : String)
  deriving DecidableEq, Repr

namespace DefinitionError

/-- A hint as it follows a message. -/
def hintText : Option String → String
  | some h => "\n Hint: " ++ h
  | none => ""

/-- The text of an error. -/
def message : DefinitionError → String
  | load path reason hint => s!"Failed to load tool definitions from {path}: {reason}{hintText hint}"
  | invalid m => s!"Tool definition validation failed: {m}"
  | mismatch path m hint => s!"Schema mismatch at {path}: {m}{hintText hint}"
  | duplicate kind name hint => s!"Duplicate {kind} '{name}'{hintText hint}"
  | pattern path p reason => s!"Invalid pattern '{p}' at {path}: {reason}"
  | template path reason => s!"Invalid template at {path}: {reason}"
  | yaml reason => s!"YAML syntax error: {reason}"
  | internal reason => s!"Internal definition error: {reason}"

/-- The error with another hint, if it can carry one. -/
def withHint (hint : String) : DefinitionError → DefinitionError
  | load path reason _ => load path reason (some hint)
  | mismatch path m _ => mismatch path m (some hint)
  | duplicate kind name _ => duplicate kind name (some hint)
  | e => e

end DefinitionError
end AgentTool
