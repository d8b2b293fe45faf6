import AgentTool.Invocation

/-!
# Events of invocations

An invocation reports each of its steps.  As JSON an event is its name, the
invocation that it belongs to, and what it tells.
-/

namespace AgentTool

/-- What an event tells. -/
inductive Event.Fact where
  | started (tool : String)
  | stateChanged (state : RunState)
  | expressionMatched (rule : Nat)
  | expressionNoMatch
  /-- attempts count from one; there is a status if a reply came -/
  | webhookAttempt (webhook attempt : Nat) (status : Option Nat)
  | webhookFailed (webhook : Nat) (failure : Failure)
  | cancelled (tool : String)
  | completed (tool : String) (outcome : Outcome) (millis : Nat)
  deriving DecidableEq, Repr

/-- A step of an invocation. -/
structure Event where
  invocation : String
  fact : Event.Fact
  deriving DecidableEq, Repr

namespace Event

/-- The name of what an event tells. -/
def Fact.name : Fact → String
  | started _ => "started"
  | stateChanged _ => "state_changed"
  | expressionMatched _ => "expression_matched"
  | expressionNoMatch => "expression_no_match"
  | webhookAttempt .. => "webhook_attempt"
  | webhookFailed .. => "webhook_failed"
  | cancelled _ => "cancelled"
  | completed .. => "completed"

/-- The fields of what an event tells. -/
def Fact.fields : Fact → List (String × Json)
  | started tool => [("tool", .str tool)]
  | stateChanged s => [("state", .str s.name)]
  | expressionMatched rule => [("rule_index", .int rule)]
  | expressionNoMatch => []
  | webhookAttempt webhook attempt status =>
    [("webhook_index", .int webhook), ("attempt", .int attempt),
      ("http_status", (status.map fun (n : Nat) => Json.int n).getD .null)]
  | webhookFailed webhook f => [("webhook_index", .int webhook), ("failure", f.toJson)]
  | cancelled tool => [("tool", .str tool)]
  | completed tool outcome millis =>
    [("tool", .str tool), ("outcome", outcome.toJson), ("duration_ms", .int millis)]

/-- An event as JSON. -/
def toJson (e : Event) : Json :=
  .obj (("event", .str e.fact.name) :: ("invocation_id", .str e.invocation) :: e.fact.fields)

end Event
end AgentTool
