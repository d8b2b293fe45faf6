import AgentTool.Tool.Basic
import AgentTool.Tool.Check

/-!
# From documents to tools

A document becomes a tool if it passes every check and every pattern can be
read.  The methods of its webhooks are first trimmed and put in upper case; the
document of the tool holds them so.
-/

namespace AgentTool

/-- The webhook with its method trimmed and in upper case. -/
def Webhook.normalized (w : Webhook) : Webhook :=
  { w with method := Text.upperAscii (Text.trimString w.method) }

/-- The data map with its methods trimmed and in upper case. -/
def DataMap.normalized (d : DataMap) : DataMap :=
  { d with webhooks := d.webhooks.map Webhook.normalized }

/-- The document with its methods trimmed and in upper case. -/
def Document.normalized (d : Document) : Document :=
  { d with dataMap := d.dataMap.map DataMap.normalized }

/-- The parameters that are declared. -/
def Parameters.list (p : Parameters) : List Parameter :=
  p.properties.map fun e =>
    { name := e.1
      type := e.2.type
      description := e.2.description
      required := p.required.contains e.1
      choices := e.2.choices }

namespace Compile

/-- The rules from position `i` on, each checked before its pattern is read. -/
def rules (i : Nat) : List Rule → Except DefinitionError Matcher
  | [] => .ok []
  | r :: rs => do
    let path := s!"data_map.expressions[{i}]"
    Check.rule r path
    let ready ← ReadyRule.ofRule r s!"{path}.pattern"
    return ready :: (← rules (i + 1) rs)

/-- The data map of the tool `tool` with the given parameters. -/
def dataMap (tool : String) (d : DataMap) (declared : List String) :
    Except DefinitionError ReadyMap := do
  Check.demand (!(d.rules.isEmpty && d.webhooks.isEmpty))
    s!"data_map of tool '{tool}' has neither expressions nor webhooks"
  let matcher ← rules 0 d.rules
  Check.each (fun i w => Check.webhook w s!"data_map.webhooks[{i}]" declared) d.webhooks
  Check.ifAny (fun o => Check.output o "data_map.output") d.fallback
  Check.errorKeys d.errorKeys "data_map.error_keys"
  return { matcher, webhooks := d.webhooks, fallback := d.fallback, errorKeys := d.errorKeys }

/-- How a tool runs: by a data map or by a local address, and not by both. -/
def runtime (d : Document) : Except DefinitionError Runtime :=
  match d.dataMap, d.webhookUrl with
  | some _, some _ =>
    .error (.invalid s!"tool '{d.name}' declares both data_map and web_hook_url")
  | none, none =>
    .error (.invalid s!"tool '{d.name}' declares neither data_map nor web_hook_url")
  | some m, none => do
    return .dataMap (← dataMap d.name m (Entries.keys d.parameters.properties))
  | none, some url => do
    Check.address url "web_hook_url"
    return .localWebhook url

end Compile

/-- The tool of a document. -/
def Document.compile (d : Document) (instanceKey : Option String) :
    Except DefinitionError Tool := do
  Check.name d.name
  let d := d.normalized
  Check.parameters d.name d.parameters
  let runtime ← Compile.runtime d
  return { document := d, parameters := d.parameters.list, instanceKey, runtime }

end AgentTool
