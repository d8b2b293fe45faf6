import AgentTool.Document.Basic
import AgentTool.Document.Error
import AgentTool.Schema.Basic

/-!
# The schema of documents

`Document.schema` describes the shape of a tool document; `Document.validate`
names the first few places where a value departs from it.  Fields that a
document may leave out are not required, and fields that it does not name are
free.
-/

namespace AgentTool
namespace Document

open Schema

/-- A remark on what is described. -/
def remark (text : String) : Schema := .note "description" (.str text)

/-- The value that stands for an absent one. -/
def standing (v : Json) : Schema := .note "default" v

/-- A text. -/
def text : Schema := .type [.string]

/-- A truth value. -/
def flag : Schema := .type [.boolean]

/-- A list of texts. -/
def texts : List Schema := [.type [.array], .items text]

/-- A value or null. -/
def nullable (s : Schema) : Schema := .anyOf [s, .type [.null]]

/-- A schema with a remark in front. -/
def remarked (note : String) (s : Schema) : Schema := .node [remark note, s]

/-- An object: a remark, the keys that it needs, and its properties by name. -/
def object (note : String) (keys : List String) (properties : List (String × Schema)) : Schema :=
  .node <| remark note :: .type [.object] ::
    ((if keys.isEmpty then [] else [.required keys]) ++ [.properties properties])

/-- Names of types. -/
def paramTypeSchema : Schema :=
  .named "ParamType" <| .node [remark "Declared type of a tool parameter.", text,
    .choices (ParamType.all.map fun t => .str t.name)]

/-- Declared parameters. -/
def propertySchema : Schema :=
  .named "PropertySchema" <| object "One entry of `parameters.properties`." ["type"] [
    ("default", .anything),
    ("description", .node [standing (.str ""), text]),
    ("enum", .node [.type [.array, .null], .items .anything]),
    ("items", .anything),
    ("type", paramTypeSchema)]

/-- Parameter blocks. -/
def parametersSchema : Schema :=
  .named "ParametersSchema" <| object "JSON-schema-like parameter block." [] [
    ("properties", .node [standing (.obj []), .type [.object], .additional propertySchema]),
    ("required", .node texts),
    ("type", .node [standing (.str "object"), text])]

/-- Outputs. -/
def outputSchema : Schema :=
  .named "OutputSpec" <| object ("Final output of a tool: response text plus opaque host actions." ++
      "\n\n`actions` are passed through to the host untouched apart from " ++
      "template expansion of their string fields.") ["response"] [
    ("action", .node [.type [.array], .items .anything]),
    ("post_process", flag),
    ("response", remarked "Response template." text)]

/-- Aggregations of a list in a reply. -/
def foreachSchema : Schema :=
  .named "ForeachSpec" <| object "Turns a response array into one aggregated string."
    ["append", "input_key", "output_key"] [
    ("append", remarked "Item template, expanded once per item with `this` bound." text),
    ("input_key", remarked "Dotted path of the array inside the response." text),
    ("max", .node [remark "Maximum number of items processed; unbounded when absent.",
      .type [.integer, .null], .note "format" (.str "uint"), .nonnegative]),
    ("output_key", remarked "Top-level name the aggregated string is bound to." text),
    ("require_items", remarked "Treat an empty projection as a failed call." flag)]

/-- Webhooks. -/
def webhookSchema : Schema :=
  .named "WebhookSpec" <| object ("One declarative HTTP call.\n\n`url`, header values and every " ++
      "string inside `params` may contain template references.") ["url"] [
    ("error_keys", .node texts),
    ("foreach", nullable foreachSchema),
    ("form_param", .node [
      remark "Send the params as JSON text inside this single form field.",
      .type [.string, .null]]),
    ("headers", .node [.type [.object], .additional text]),
    ("input_args_as_params", flag),
    ("method", .node [standing (.str "GET"), text]),
    ("output", nullable outputSchema),
    ("params", remark "Request body (JSON, or query string for GET/DELETE)."),
    ("require_args", .node texts),
    ("url", text)]

/-- Expression rules. -/
def ruleSchema : Schema :=
  .named "ExpressionRule" <| object "Regex-to-output rule evaluated without any I/O."
    ["output", "pattern", "string"] [
    ("nomatch-output", nullable outputSchema),
    ("output", outputSchema),
    ("pattern", remarked "Plain regex or `/regex/flags`." text),
    ("string", remarked "Subject template, e.g. `$\x7bargs.action\x7d`." text)]

/-- Data maps. -/
def dataMapSchema : Schema :=
  .named "DataMapDocument" <| object "The `data_map` block of a descriptor." [] [
    ("error_keys", .node (remark "Error keys applied to every webhook response." :: texts)),
    ("expressions", .node [.type [.array], .items ruleSchema]),
    ("output", remarked "Fallback output, used when the primary path fails." (nullable outputSchema)),
    ("webhooks", .node [.type [.array], .items webhookSchema])]

/-- The schema of a tool document. -/
def schema : Schema :=
  .node [
    .note "$schema" (.str "http://json-schema.org/draft-07/schema#"),
    .note "title" (.str "ToolDocument"),
    remark "A complete tool descriptor document.",
    .type [.object],
    .required ["function"],
    .properties [
      ("data_map", nullable dataMapSchema),
      ("description", .node [standing (.str ""), text]),
      ("function", text),
      ("parameters", .node [
        standing (.obj [("type", .str "object"), ("properties", .obj [])]),
        .allOf [parametersSchema]]),
      ("web_hook_url", .node [
        remark "Locally hosted webhook endpoint, for tools the host calls directly.",
        .type [.string, .null]])]]

/-- Checks the shape of a value; at most the first five violations are named. -/
def validate (v : Json) : Except DefinitionError Unit :=
  match (schema.violations v).take 5 with
  | [] => .ok ()
  | found =>
    let name := ((v.field? "function").bind Json.str?).getD "<unnamed>"
    .error <| .mismatch (", ".intercalate (found.map fun x => placeText x.place))
      ("; ".intercalate (found.map fun x => x.cause.text))
      (some s!"Check the definition of tool '{name}' against the descriptor format")

end Document
end AgentTool
