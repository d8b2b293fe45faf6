import AgentTool.Pattern
import AgentTool.Proofs.StrictTemplates
import AgentTool.Tool.Check

/-!
# Well-formed documents

What a document must satisfy to become a tool, part by part and without an order
of checks.

| part | well formed if |
| --- | --- |
| template | strict |
| value of templates | every text in it is strict, at any depth |
| address | strict, and opens with a scheme of the web or a marker |
| path, pattern | it can be read |
| names of properties, required parameters, header fields | distinct, the last up to case |
| listed values | of the type of their property, and none equal to another |
-/

namespace AgentTool

/-- A name of letters, digits, `_` and `-`. -/
def IsPlainName (s : String) : Prop := s ≠ "" ∧ ∀ c ∈ s.toList, Path.isKeyChar c = true

/-- A text with a character that is not blank. -/
def IsVisible (s : String) : Prop := ∃ c ∈ s.toList, Text.isBlank c = false

/-- A text is not blank exactly if it shows something. -/
theorem isBlankString_eq_false {s : String} : Text.isBlankString s = false ↔ IsVisible s := by
  simp [Text.isBlankString, IsVisible]

/-- The text of a path. -/
def IsPathText (s : String) : Prop := ∃ p, Path.parse s = .ok p

/-- The start of an address: a scheme, in letters of any case, or a marker. -/
def OpensAddress (cs : List Char) : Prop :=
  "http://".toList <+: cs.map Char.toLower ∨ "https://".toList <+: cs.map Char.toLower ∨
    ['$', '{'] <+: cs

/-- An address template. -/
structure IsAddress (url : String) : Prop where
  opening : OpensAddress (Text.trim url.toList)
  strict : Template.IsStrict url

/-- An object of templates. -/
structure IsTemplateObject (v : Json) : Prop where
  object : v.isObject = true
  strict : Template.IsStrictValue v

/-- An output of strict templates. -/
structure Output.WellFormed (o : Output) : Prop where
  response : Template.IsStrict o.response
  actions : ∀ a ∈ o.actions, IsTemplateObject a

/-- A rule with a subject that shows something, and a pattern that can be read. -/
structure Rule.WellFormed (r : Rule) : Prop where
  visible : IsVisible r.subject
  subject : Template.IsStrict r.subject
  nonempty : r.pattern ≠ ""
  pattern : ∃ regex, Pattern.compile r.pattern = .ok regex
  output : r.output.WellFormed
  otherwise : ∀ o, r.otherwise = some o → o.WellFormed

/-- A repetition over a path, whose output takes no name that has a meaning. -/
structure Foreach.WellFormed (f : Foreach) : Prop where
  input : IsPathText f.input
  output : IsPlainName f.output
  free : f.output ∉ ["args", "response", "global", "global_data", "this", "array", "foreach"]
  most : f.most ≠ some 0
  nonempty : f.append ≠ ""
  append : Template.IsStrict f.append

/-- A webhook of a tool whose parameters have the names `declared`. -/
structure Webhook.WellFormed (declared : List String) (w : Webhook) : Prop where
  url : IsAddress w.url
  method : Text.upperAscii (Text.trimString w.method) ∈ ["GET", "POST", "PUT", "PATCH", "DELETE"]
  headerNames : ∀ h ∈ w.headers, Text.isFieldName h.1 = true
  headersDistinct : (w.headers.map fun h => Text.lowerAscii h.1).Nodup
  headerValues : ∀ h ∈ w.headers, Template.IsStrict h.2
  params : ∀ v, w.params = some v → IsTemplateObject v
  formParam : ∀ field, w.formParam = some field → IsVisible field
  requireArgs : ∀ a ∈ w.requireArgs, a ∈ declared
  foreach : ∀ f, w.foreach = some f → f.WellFormed
  output : ∃ o, w.output = some o ∧ o.WellFormed
  errorKeys : ∀ key ∈ w.errorKeys, IsPathText key

/-- A data map of a tool whose parameters have the names `declared`. -/
structure DataMap.WellFormed (declared : List String) (m : DataMap) : Prop where
  nonempty : m.rules ≠ [] ∨ m.webhooks ≠ []
  rules : ∀ r ∈ m.rules, r.WellFormed
  webhooks : ∀ w ∈ m.webhooks, w.WellFormed declared
  fallback : ∀ o, m.fallback = some o → o.WellFormed
  errorKeys : ∀ key ∈ m.errorKeys, IsPathText key

/-- A property whose listed values and default are of its type. -/
structure Property.WellFormed (p : Property) : Prop where
  choicesNonempty : p.choices ≠ some []
  choicesTyped : ∀ vs, p.choices = some vs → ∀ v ∈ vs, p.type.accepts v = true
  choicesDistinct : ∀ vs, p.choices = some vs → vs.Pairwise fun earlier v => v.same earlier = false
  standard : ∀ v, p.standard = some v → p.type.accepts v = true

/-- Parameters with plain names that differ, of which some are required. -/
structure Parameters.WellFormed (p : Parameters) : Prop where
  type : p.type = "object"
  distinct : (Entries.keys p.properties).Nodup
  requiredDeclared : ∀ name ∈ p.required, name ∈ Entries.keys p.properties
  requiredDistinct : p.required.Nodup
  names : ∀ e ∈ p.properties, IsPlainName e.1
  properties : ∀ e ∈ p.properties, e.2.WellFormed

/-- A tool runs by a data map or by a local address, and not by both. -/
inductive Document.Runs (d : Document) : Prop where
  | dataMap {m : DataMap} : d.dataMap = some m → d.webhookUrl = none →
      m.WellFormed (Entries.keys d.parameters.properties) → d.Runs
  | localWebhook {url : String} : d.dataMap = none → d.webhookUrl = some url → IsAddress url →
      d.Runs

/-- A document that becomes a tool. -/
structure Document.WellFormed (d : Document) : Prop where
  name : d.name ≠ "" ∧ ∀ c ∈ d.name.toList, Text.isBlank c = false
  parameters : d.parameters.WellFormed
  runs : d.Runs

end AgentTool
