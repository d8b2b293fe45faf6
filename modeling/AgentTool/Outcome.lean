import AgentTool.Failure

/-!
# Outcomes

The outcome of an invocation tells which way led to its answer.  Rules and
webhooks are successes; a fallback or a final failure carries the reason.
-/

namespace AgentTool

/-- The way that led to an answer. -/
inductive Outcome where
  | expression (rule : Nat)
  | otherwise (rule : Nat)
  | webhook (index status : Nat)
  /-- the tool's own fallback was used -/
  | fallback (reason : Failure)
  /-- there was no fallback, and the engine's text was used -/
  | failed (reason : Failure)
  deriving DecidableEq, Repr, Inhabited

namespace Outcome

/-- A rule or a webhook gave the answer. -/
def isSuccess : Outcome → Bool
  | expression _ | otherwise _ | webhook _ _ => true
  | fallback _ | failed _ => false

/-- The reason for a fallback or a failure. -/
def failure? : Outcome → Option Failure
  | fallback r | failed r => some r
  | _ => none

/-- An outcome as JSON. -/
def toJson : Outcome → Json
  | expression rule => .obj [("type", .str "expression"), ("rule", .int rule)]
  | otherwise rule => .obj [("type", .str "no_match_output"), ("rule", .int rule)]
  | webhook index status =>
    .obj [("type", .str "webhook"), ("index", .int index), ("status", .int status)]
  | fallback r => .obj [("type", .str "fallback"), ("reason", r.toJson)]
  | failed r => .obj [("type", .str "failed"), ("reason", r.toJson)]

/-- The outcome of a name and the value that holds its fields. -/
def ofParts? (name : String) (rest : Datum) : Option Outcome :=
  match name with
  | "expression" => do
    let r ← Decode.record? [["rule"]] rest
    return .expression (← r.required "rule" Decode.natural)
  | "no_match_output" => do
    let r ← Decode.record? [["rule"]] rest
    return .otherwise (← r.required "rule" Decode.natural)
  | "webhook" => do
    let r ← Decode.record? [["index"], ["status"]] rest
    return .webhook (← r.required "index" Decode.natural) (← r.required "status" Failure.statusCode)
  | "fallback" => do
    let r ← Decode.record? [["reason"]] rest
    return .fallback (← r.required "reason" Failure.ofDatum?)
  | "failed" => do
    let r ← Decode.record? [["reason"]] rest
    return .failed (← r.required "reason" Failure.ofDatum?)
  | _ => none

/-- The outcome of a value: an object, or an array that its name opens. -/
def ofDatum? : Decode.Reader Outcome
  | .obj es => do
    let r ← Decode.record? [["type"]] (.obj es)
    ofParts? (← r.required "type" Decode.text) (.obj es)
  | .arr (.str name :: rest) => ofParts? name (.arr rest)
  | _ => none

/-- The outcome of a JSON value. -/
def ofJson? (v : Json) : Option Outcome := ofDatum? (.ofJson v)

end Outcome
end AgentTool
