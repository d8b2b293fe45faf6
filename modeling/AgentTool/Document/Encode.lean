import AgentTool.Document.Basic

/-!
# Documents as JSON

The fields of a document in their published order and under their published
names.  Optional fields that are absent, empty lists and false flags are left
out; descriptions, the method of a webhook and the whole `parameters` block are
always written.
-/

namespace AgentTool

/-- A field that is left out unless it is present. -/
def presentField {α : Type} (key : String) (f : α → Json) : Option α → List (String × Json)
  | some a => [(key, f a)]
  | none => []

/-- A list that is left out when it is empty. -/
def listField (key : String) (items : List Json) : List (String × Json) :=
  if items.isEmpty then [] else [(key, .arr items)]

/-- A flag that is left out when it is false. -/
def flagField (key : String) (b : Bool) : List (String × Json) :=
  if b then [(key, .bool true)] else []

/-- A list of texts that is left out when it is empty. -/
def textsField (key : String) (texts : List String) : List (String × Json) :=
  listField key (texts.map .str)

/-- The declaration of a parameter. -/
def Property.toJson (p : Property) : Json :=
  .obj ([("type", .str p.type.name), ("description", .str p.description)] ++
    presentField "enum" .arr p.choices ++ presentField "items" id p.items ++
    presentField "default" id p.standard)

/-- The parameters of a tool. -/
def Parameters.toJson (p : Parameters) : Json :=
  .obj ([("type", .str p.type),
      ("properties", .obj (p.properties.map fun e => (e.1, e.2.toJson)))] ++
    textsField "required" p.required)

/-- An output. -/
def Output.toJson (o : Output) : Json :=
  .obj ([("response", .str o.response)] ++ listField "action" o.actions ++
    flagField "post_process" o.postProcess)

/-- An aggregation. -/
def Foreach.toJson (f : Foreach) : Json :=
  .obj ([("input_key", .str f.input), ("output_key", .str f.output)] ++
    presentField "max" (fun n => .int (n : Nat)) f.most ++
    [("append", .str f.append)] ++ flagField "require_items" f.requireItems)

/-- A webhook. -/
def Webhook.toJson (w : Webhook) : Json :=
  .obj ([("url", .str w.url), ("method", .str w.method)] ++
    (if w.headers.isEmpty then []
      else [("headers", .obj (w.headers.map fun e => (e.1, .str e.2)))]) ++
    presentField "params" id w.params ++ presentField "form_param" .str w.formParam ++
    flagField "input_args_as_params" w.argsAsParams ++ textsField "require_args" w.requireArgs ++
    presentField "foreach" Foreach.toJson w.foreach ++
    presentField "output" Output.toJson w.output ++ textsField "error_keys" w.errorKeys)

/-- A rule. -/
def Rule.toJson (r : Rule) : Json :=
  .obj ([("string", .str r.subject), ("pattern", .str r.pattern),
      ("output", r.output.toJson)] ++ presentField "nomatch-output" Output.toJson r.otherwise)

/-- A data map. -/
def DataMap.toJson (d : DataMap) : Json :=
  .obj (listField "expressions" (d.rules.map Rule.toJson) ++
    listField "webhooks" (d.webhooks.map Webhook.toJson) ++
    presentField "output" Output.toJson d.fallback ++ textsField "error_keys" d.errorKeys)

/-- A document. -/
def Document.toJson (d : Document) : Json :=
  .obj ([("function", .str d.name), ("description", .str d.description),
      ("parameters", d.parameters.toJson)] ++ presentField "data_map" DataMap.toJson d.dataMap ++
    presentField "web_hook_url" .str d.webhookUrl)

end AgentTool
