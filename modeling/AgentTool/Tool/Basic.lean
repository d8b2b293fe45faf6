import AgentTool.Document.Encode
import AgentTool.Matcher

/-!
# Tools

A tool is a document that has passed every check, with its patterns ready to
search.  Its descriptor is what the host is told about it: the document in its
published form.
-/

namespace AgentTool

/-- A parameter of a tool. -/
structure Parameter where
  name : String
  type : ParamType
  description : String
  required : Bool
  choices : Option (List Json)
  deriving Inhabited

/-- A data map that is ready to run. -/
structure ReadyMap where
  matcher : Matcher
  webhooks : List Webhook
  fallback : Option Output
  errorKeys : List String
  deriving Inhabited

/-- How a tool runs. -/
inductive Runtime where
  | dataMap (map : ReadyMap)
  /-- the host calls a local address itself -/
  | localWebhook (url : String)
  deriving Inhabited

/-- A tool. -/
structure Tool where
  document : Document
  parameters : List Parameter
  /-- the skill that the tool belongs to -/
  instanceKey : Option String
  runtime : Runtime
  deriving Inhabited

namespace Tool

/-- The name of a tool. -/
def name (t : Tool) : String := t.document.name

/-- The description of a tool. -/
def description (t : Tool) : String := t.document.description

/-- What the host is told about a tool. -/
def descriptor (t : Tool) : Json := t.document.toJson

/-- The names of the required parameters. -/
def required (t : Tool) : List String := (t.parameters.filter (·.required)).map (·.name)

/-- The data map of a tool that runs here. -/
def map? (t : Tool) : Option ReadyMap :=
  match t.runtime with
  | .dataMap m => some m
  | .localWebhook _ => none

end Tool
end AgentTool
