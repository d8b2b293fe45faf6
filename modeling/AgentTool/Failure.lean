import AgentTool.Document.Decode

/-!
# Why a step of an invocation failed

No failure ends an invocation: it is recorded, and another way to an answer is
tried.  As JSON a failure is its name under `kind` and, where it has one, its
datum under `detail`.
-/

namespace AgentTool

/-- Why a step failed. -/
inductive Failure where
  | unknownTool
  /-- the tool runs elsewhere -/
  | notExecutable
  | missingArguments
  | invalidRequest
  | transport
  | timeout
  | badStatus (code : Nat)
  | unparsableBody
  /-- an error key of the reply is true -/
  | errorKey (key : String)
  | emptyResults
  | noMatch
  deriving DecidableEq, Repr, Inhabited

namespace Failure

/-- The text of a failure. -/
def message : Failure → String
  | unknownTool => "unknown tool"
  | notExecutable => "tool is not executable by the engine"
  | missingArguments => "required arguments missing"
  | invalidRequest => "invalid request"
  | transport => "transport failure"
  | timeout => "timeout"
  | badStatus code => s!"upstream status {code}"
  | unparsableBody => "unparsable response body"
  | errorKey key => s!"error key '{key}' set"
  | emptyResults => "empty results"
  | noMatch => "no match"

/-- The name of a failure. -/
def name : Failure → String
  | unknownTool => "unknown_tool"
  | notExecutable => "not_executable"
  | missingArguments => "missing_args"
  | invalidRequest => "invalid_request"
  | transport => "transport"
  | timeout => "timeout"
  | badStatus _ => "upstream_status"
  | unparsableBody => "unparsable_body"
  | errorKey _ => "error_key"
  | emptyResults => "empty_results"
  | noMatch => "no_match"

/-- The failures that have no datum. -/
def plain : List Failure :=
  [unknownTool, notExecutable, missingArguments, invalidRequest, transport, timeout,
   unparsableBody, emptyResults, noMatch]

/-- A failure as JSON. -/
def toJson (f : Failure) : Json :=
  .obj (("kind", .str f.name) :: match f with
    | badStatus code => [("detail", .int code)]
    | errorKey key => [("detail", .str key)]
    | _ => [])

/-- A status code of 16 bits. -/
def statusCode : Decode.Reader Nat
  | .int n => if 0 ≤ n ∧ n < UInt16.size then some n.toNat else none
  | _ => none

/-- The failure of a name and a datum. -/
def ofParts? (name : String) (detail : Option Datum) : Option Failure :=
  if name = "upstream_status" then (detail.bind statusCode).map badStatus
  else if name = "error_key" then (detail.bind Decode.text).map errorKey
  else if detail.all Datum.isNull then plain.find? fun f => f.name == name
  else none

/-- The failure of a value: an object, or a pair of name and datum. -/
def ofDatum? : Decode.Reader Failure
  | .obj es => do
    let r ← Decode.record? [["kind"], ["detail"]] (.obj es)
    ofParts? (← r.required "kind" Decode.unitName) (Entries.get? "detail" r)
  | .arr [kind, detail] => do ofParts? (← Decode.unitName kind) (some detail)
  | _ => none

/-- The failure of a JSON value. -/
def ofJson? (v : Json) : Option Failure := ofDatum? (.ofJson v)

end Failure
end AgentTool
