import AgentTool.Json.Basic

/-!
# Tool documents

A document declares one tool: its name, its parameters, and how it runs.  A data
map runs by expression rules, which decide on text alone, and by webhooks, which
call an address and project the reply.  A tool that the host runs itself names a
local address instead.

Nothing here is checked: a document may declare a parameter twice or hold text
that is no template.  What a tool needs beyond its shape is checked when it is
compiled.
-/

namespace AgentTool

/-- The type of a parameter. -/
inductive ParamType where
  | string | integer | number | boolean | array | object
  deriving DecidableEq, Repr, Inhabited

namespace ParamType

/-- All types. -/
def all : List ParamType := [.string, .integer, .number, .boolean, .array, .object]

/-- The name of a type. -/
def name : ParamType → String
  | .string => "string"
  | .integer => "integer"
  | .number => "number"
  | .boolean => "boolean"
  | .array => "array"
  | .object => "object"

/-- The type of a name. -/
def ofName? (s : String) : Option ParamType := all.find? fun t => t.name == s

/-- Whether a value has the type; an integer is also a number, a float is never an integer. -/
def accepts : ParamType → Json → Bool
  | .string, .str _ => true
  | .integer, .int _ => true
  | .number, .int _ => true
  | .number, .float _ => true
  | .boolean, .bool _ => true
  | .array, .arr _ => true
  | .object, .obj _ => true
  | _, _ => false

end ParamType

/-- What is declared of a parameter. -/
structure Property where
  type : ParamType
  description : String := ""
  /-- the only values, if they are listed -/
  choices : Option (List Json) := none
  items : Option Json := none
  standard : Option Json := none
  deriving Inhabited

/-- The parameters of a tool. -/
structure Parameters where
  /-- the type of the arguments as a whole -/
  type : String := "object"
  properties : Entries Property := []
  required : List String := []
  deriving Inhabited

/-- What a tool answers: a text and actions for the host, both templates. -/
structure Output where
  response : String
  actions : List Json := []
  postProcess : Bool := false
  deriving Inhabited

/-- How an array of a reply becomes one text. -/
structure Foreach where
  /-- the path of the array -/
  input : String
  /-- the name that the text is bound to -/
  output : String
  /-- the most items that are used -/
  most : Option Nat := none
  /-- the template that is expanded for each item -/
  append : String
  /-- whether no items mean failure -/
  requireItems : Bool := false
  deriving Inhabited

/-- A call of an address. -/
structure Webhook where
  url : String
  method : String := "GET"
  headers : Entries String := []
  params : Option Json := none
  /-- the form field that carries the parameters as text -/
  formParam : Option String := none
  /-- whether the arguments join the parameters -/
  argsAsParams : Bool := false
  /-- arguments without which there is no call -/
  requireArgs : List String := []
  foreach : Option Foreach := none
  output : Option Output := none
  /-- paths whose truth in a reply means failure -/
  errorKeys : List String := []
  deriving Inhabited

/-- An output for the subjects that a pattern matches. -/
structure Rule where
  /-- the template of the subject -/
  subject : String
  pattern : String
  output : Output
  /-- the output when no rule matches -/
  otherwise : Option Output := none
  deriving Inhabited

/-- How a tool runs here: rules first, then webhooks, then the fallback. -/
structure DataMap where
  rules : List Rule := []
  webhooks : List Webhook := []
  fallback : Option Output := none
  /-- error keys of every webhook -/
  errorKeys : List String := []
  deriving Inhabited

/-- The declaration of a tool. -/
structure Document where
  name : String
  description : String := ""
  parameters : Parameters := {}
  dataMap : Option DataMap := none
  /-- the local address of a tool that the host runs -/
  webhookUrl : Option String := none
  deriving Inhabited

end AgentTool
