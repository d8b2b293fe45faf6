import AgentTool.Json.Reader
import AgentTool.Outcome
import AgentTool.Projection

/-!
# Invocations and their results

An invocation names a tool and gives it arguments; the caller's variables come
along.  Both may arrive as an object or as the JSON text of one, and anything
else counts as an empty object.
-/

namespace AgentTool

/-- A request to run a tool. -/
structure Invocation where
  tool : String
  arguments : Json := .null
  global : Json := .null
  callId : Option String := none
  deriving Inhabited

namespace Invocation

/-- An object, given as such or as its text; empty for anything else. -/
def objectOf : Json → Json
  | .obj entries => .obj entries
  | .str text =>
    match Json.read? text with
    | some (.obj entries) => .obj entries
    | _ => .obj []
  | _ => .obj []

/-- The arguments as an object. -/
def boundArguments (i : Invocation) : Json := objectOf i.arguments

/-- The caller's variables as an object. -/
def boundGlobal (i : Invocation) : Json := objectOf i.global

/-- The arguments that a host sends under `argument`: the first parsed ones, or the raw text, or
all of it. -/
def hostArguments : Json → Json
  | .obj entries =>
    match Entries.get? "parsed" entries, Entries.get? "raw" entries with
    | some (.arr (first :: _)), _ => first
    | _, some raw => raw
    | _, none => .obj entries
  | v => v

/-- The invocation that a host asks for, if it names a function. -/
def ofHostRequest? (request : Json) : Option Invocation := do
  let tool ← (request.field? "function").bind Json.str?
  return {
    tool
    arguments := match request.field? "argument" with
      | some v => hostArguments v
      | none => (request.field? "arguments").getD .null
    global := ((request.field? "global_data").or (request.field? "global")).getD .null
    callId := (request.field? "call_id").bind Json.str? }

/-- What the caller sent along. -/
def contextJson (i : Invocation) : Json :=
  .obj (("global", i.global) :: (i.callId.map fun id => ("call_id", Json.str id)).toList)

end Invocation

/-- The state of a running invocation. -/
inductive RunState where
  | received | matchedExpression | invokedWebhook | projected | completed
  deriving DecidableEq, Repr

namespace RunState

/-- All states. -/
def all : List RunState := [received, matchedExpression, invokedWebhook, projected, completed]

/-- The name of a state. -/
def name : RunState → String
  | received => "received"
  | matchedExpression => "matched_expression"
  | invokedWebhook => "invoked_webhook"
  | projected => "projected"
  | completed => "completed"

/-- The state of a name. -/
def ofName? (s : String) : Option RunState := all.find? fun x => x.name == s

end RunState

/-- What an invocation comes to, and the milliseconds that it took. -/
structure InvocationResult where
  id : String
  tool : String
  output : Rendered
  outcome : Outcome
  millis : Nat
  deriving Inhabited

/-- A result as the host reads it. -/
def InvocationResult.toHostJson (r : InvocationResult) : Json := r.output.toHostJson

end AgentTool
