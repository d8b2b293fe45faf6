import AgentTool.Tool.Compile

/-!
# Drafts

A tool can be put together step by step.  Steps that belong to a webhook apply
to the webhook that was added last; the first such step without a webhook is
remembered and refuses the draft when it is built.
-/

namespace AgentTool

/-- A tool in the making. -/
structure Draft where
  name : String
  description : String := ""
  parameters : Parameters := {}
  map : DataMap := {}
  instanceKey : Option String := none
  /-- the first step that lacked its webhook -/
  misplaced : Option String := none
  deriving Inhabited

/-- A step of a draft. -/
inductive Draft.Step where
  | describe (text : String)
  | parameter (name : String) (type : ParamType) (description : String) (required : Bool)
      (choices : Option (List Json))
  | rule (r : Rule)
  | webhook (method url : String)
  | header (name value : String)
  | params (v : Json)
  | formParam (field : String)
  | argsAsParams (on : Bool)
  | requireArgs (args : List String)
  | foreach (f : Foreach)
  | output (o : Output)
  | errorKeys (keys : List String)
  | globalErrorKeys (keys : List String)
  | fallback (o : Output)
  | instanceKey (key : String)

namespace Draft

/-- Changes the last item of a list. -/
def changeLast {α : Type} (f : α → α) : List α → List α
  | [] => []
  | [a] => [f a]
  | a :: as => a :: changeLast f as

/-- Applies a step named `step` to the last webhook. -/
def onWebhook (d : Draft) (step : String) (f : Webhook → Webhook) : Draft :=
  if d.map.webhooks.isEmpty then { d with misplaced := d.misplaced <|> some step }
  else { d with map := { d.map with webhooks := changeLast f d.map.webhooks } }

/-- Declares a parameter; a name that is declared twice stays so. -/
def declare (p : Parameters) (name : String) (q : Property) (required : Bool) : Parameters :=
  { p with
    properties := p.properties ++ [(name, q)]
    required := if required then p.required ++ [name] else p.required }

/-- One step further. -/
def apply (d : Draft) : Step → Draft
  | .describe text => { d with description := text }
  | .parameter name type description required choices =>
    { d with parameters := declare d.parameters name { type, description, choices } required }
  | .rule r => { d with map := { d.map with rules := d.map.rules ++ [r] } }
  | .webhook method url =>
    { d with map := { d.map with webhooks := d.map.webhooks ++ [{ url, method }] } }
  | .header name value =>
    d.onWebhook "header" fun w => { w with headers := w.headers ++ [(name, value)] }
  | .params v => d.onWebhook "params" fun w => { w with params := some v }
  | .formParam field => d.onWebhook "form_param" fun w => { w with formParam := some field }
  | .argsAsParams on => d.onWebhook "input_args_as_params" fun w => { w with argsAsParams := on }
  | .requireArgs args => d.onWebhook "require_args" fun w => { w with requireArgs := args }
  | .foreach f => d.onWebhook "foreach" fun w => { w with foreach := some f }
  | .output o => d.onWebhook "output" fun w => { w with output := some o }
  | .errorKeys keys => d.onWebhook "error_keys" fun w => { w with errorKeys := keys }
  | .globalErrorKeys keys => { d with map := { d.map with errorKeys := keys } }
  | .fallback o => { d with map := { d.map with fallback := some o } }
  | .instanceKey key => { d with instanceKey := some key }

/-- The document of a draft. -/
def document (d : Draft) : Document :=
  { name := d.name
    description := d.description
    parameters := d.parameters
    dataMap := some d.map }

/-- The tool of a draft. -/
def build (d : Draft) : Except DefinitionError Tool :=
  match d.misplaced with
  | some step =>
    .error (.invalid s!"'{step}' was set on tool '{d.name}' before any webhook was added")
  | none => d.document.compile d.instanceKey

/-- A draft after steps. -/
def ofSteps (name : String) (steps : List Step) : Draft := steps.foldl apply { name }

/-- A tool of one webhook and parameters of text. -/
def simpleApi (name purpose : String) (parameters : List (String × String × Bool))
    (method url response : String) (errorKeys : List String) : Draft :=
  ofSteps name ([.describe purpose] ++
    parameters.map (fun (p, description, required) => .parameter p .string description required none) ++
    [.webhook method url, .output { response }, .errorKeys errorKeys])

/-- A tool of rules on one parameter of text. -/
def ruleTable (name purpose parameter description : String) (rules : List (String × Output)) : Draft :=
  ofSteps name ([.describe purpose, .parameter parameter .string description true none] ++
    rules.map fun (pattern, output) =>
      .rule { subject := "$\x7bargs." ++ parameter ++ "\x7d", pattern, output })

end Draft
end AgentTool
