import AgentTool.Failure
import AgentTool.Template.Expand
import AgentTool.Text.Token
import AgentTool.Url.Reader

/-!
# Requests

A webhook is made concrete by expanding its templates.  Where its parameters go
depends on the method:

| method | parameters |
| --- | --- |
| `GET`, `DELETE` | appended to the query, each value as text, null left out |
| others, with a form field | the field, as JSON text |
| others | the body, as JSON |
-/

namespace AgentTool

/-- The body of a request. -/
inductive Body where
  | empty
  | json (v : Json)
  | form (pairs : List (String × String))
  deriving Inhabited

/-- A request that is ready to be sent, as often as needed. -/
structure Request where
  method : String
  url : Url
  headers : List (String × String) := []
  body : Body := .empty
  deriving Inhabited

/-- Absent, null, or empty. -/
def isMissing : Option Json → Bool
  | none | some .null => true
  | some (.str s) => s.isEmpty
  | some (.arr items) => items.isEmpty
  | some (.obj entries) => entries.isEmpty
  | some _ => false

namespace Webhook

/-- The first required argument that is missing. -/
def missingArgument? (w : Webhook) (args : Json) : Option String :=
  w.requireArgs.find? fun name => isMissing (args.field? name)

/-- The expanded parameters of a webhook: an object, or nothing. -/
def ownParams (w : Webhook) (scopes : Scopes) (R : Reading := .standard) : Entries Json :=
  match w.params with
  | some (.obj entries) => Json.mapEntryTexts (fun s => R.text s scopes) entries
  | _ => []

/-- The parameters that are sent: the webhook's own, then the arguments under other names. -/
def sentParams (w : Webhook) (scopes : Scopes) (R : Reading := .standard) : Entries Json :=
  match w.argsAsParams, scopes.get? Scopes.argsName with
  | true, some (.obj args) => Entries.fill (w.ownParams scopes R) args
  | _, _ => w.ownParams scopes R

/-- Parameters as the pairs of a query. -/
def queryPairs (params : Entries Json) : List (String × String) :=
  params.filterMap fun e => e.2.display?.map fun text => (e.1, text)

/-- Whether a method carries its parameters in the query. -/
def isQueryMethod (method : String) : Bool := method == "GET" || method == "DELETE"

/-- The address of a webhook, before its parameters. -/
def address? (w : Webhook) (scopes : Scopes) (R : Reading := .standard) : Option Url := do
  let text ← R.address w.url scopes
  Url.parse? (Text.trimString text)

/-- The body for parameters under a method that has one. -/
def bodyOf (w : Webhook) (params : Entries Json) : Body :=
  match w.formParam with
  | some field => .form [(field, (Json.obj params).compact)]
  | none => if w.params.isSome || !params.isEmpty then .json (.obj params) else .empty

/-- The request of a webhook. -/
def prepare (w : Webhook) (scopes : Scopes) (R : Reading := .standard) : Except Failure Request :=
  let method := Text.upperAscii w.method
  match w.address? scopes R with
  | none => .error .invalidRequest
  | some url =>
    if !Text.isToken method then .error .invalidRequest
    else
      let params := w.sentParams scopes R
      let headers := w.headers.map fun h => (h.1, R.text h.2 scopes)
      if isQueryMethod method then
        .ok {
          method
          url := if params.isEmpty then url else url.appendPairs (queryPairs params)
          headers }
      else .ok { method, url, headers, body := w.bodyOf params }

end Webhook
end AgentTool
