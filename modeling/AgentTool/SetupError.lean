import AgentTool.Document.Error

/-!
# Why an engine cannot be set up

Only definitions and settings cause errors.  An invocation never does: what
fails in it is recorded in its outcome.
-/

namespace AgentTool

/-- Where an error belongs. -/
structure ErrorContext where
  tool : Option String := none
  field : Option String := none
  details : Option String := none
  /-- the part of the library that noticed it -/
  source : Option String := none
  deriving DecidableEq, Repr, Inhabited

/-- The parts that are known, in brackets; nothing if none is. -/
def ErrorContext.text (c : ErrorContext) : String :=
  let part (label : String) (value : Option String) : List String :=
    (value.map fun v => s!"{label}: {v}").toList
  let parts := part "tool" c.tool ++ part "field" c.field ++ part "details" c.details ++
    part "source" c.source
  if parts.isEmpty then "" else " (" ++ ", ".intercalate parts ++ ")"

/-- Why an engine cannot be set up. -/
inductive SetupError where
  | definition (error : DefinitionError)
  | configuration (message : String) (context : ErrorContext)
  | transport (reason : String)
  deriving DecidableEq, Repr

namespace SetupError

/-- The text of an error. -/
def message : SetupError → String
  | definition e => s!"Tool definition error: {e.message}"
  | configuration m c => s!"Engine configuration error: {m}{c.text}"
  | transport reason => s!"Webhook transport setup failed: Transport error: {reason}"

/-- Where the error belongs, if it is an error of settings. -/
def context? : SetupError → Option ErrorContext
  | configuration _ c => some c
  | _ => none

/-- Whether a definition or a setting is at fault. -/
def isConfiguration : SetupError → Bool
  | definition _ | configuration .. => true
  | transport _ => false

end SetupError
end AgentTool
