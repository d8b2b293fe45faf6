import AgentTool.Document.Basic
import AgentTool.Document.Error
import AgentTool.Scopes
import AgentTool.Template.Basic
import AgentTool.Text.Token

/-!
# Checks of a document

Each check looks at one part of a document and names, in its error, the path
where the part stands.  A part is checked only when all parts before it have
passed, so the first fault of a document decides its error.
-/

namespace AgentTool
namespace Check

/-- The result of a check. -/
abbrev Result := Except DefinitionError Unit

/-- Fails with an error unless a condition holds. -/
def ensure (holds : Bool) (e : DefinitionError) : Result := if holds then .ok () else .error e

/-- Fails with a message unless a condition holds. -/
def demand (holds : Bool) (message : String) : Result := ensure holds (.invalid message)

/-- Checks a part that may be absent. -/
def ifAny {α : Type} (check : α → Result) : Option α → Result
  | some a => check a
  | none => .ok ()

/-- Checks the items of a list with their positions, from a position on. -/
def eachFrom {α : Type} (check : Nat → α → Result) (i : Nat) : List α → Result
  | [] => .ok ()
  | a :: as => do
    check i a
    eachFrom check (i + 1) as

/-- Checks the items of a list with their positions. -/
def each {α : Type} (check : Nat → α → Result) (as : List α) : Result := eachFrom check 0 as

/-- A name of ASCII letters, digits, `_` and `-`. -/
def isPlainName (s : String) : Bool := !s.isEmpty && s.toList.all Path.isKeyChar

/-- A text that is a template. -/
def template (text path : String) : Result :=
  match Template.parse text with
  | .ok _ => .ok ()
  | .error e => .error (.template path e.message)

/-- A value whose texts are templates. -/
def templates (v : Json) (path : String) : Result :=
  match Template.checkValue v with
  | .ok _ => .ok ()
  | .error e => .error (.template path e.message)

/-- An address: of the web, or a template from its start on. -/
def address (url path : String) : Result := do
  let trimmed := Text.trim url.toList
  demand (!trimmed.isEmpty) s!"{path} must not be empty"
  let opens (lead : String) : Bool :=
    (Text.dropLead? lead.toList (trimmed.map Char.toLower)).isSome
  demand (opens "http://" || opens "https://" || opens "$\x7b")
    s!"{path} '{url}' must start with http://, https:// or a template reference"
  template url path

/-- A text that is a path into a value. -/
def valuePath (text path : String) : Result :=
  match Path.parse text with
  | .ok _ => .ok ()
  | .error e => .error (.invalid s!"{path}: {e.message}")

/-- Paths of error keys. -/
def errorKeys (keys : List String) (path : String) : Result :=
  each (fun i key => valuePath key s!"{path}[{i}]") keys

/-- An object of templates. -/
def templateObject (v : Json) (path : String) : Result := do
  demand v.isObject s!"{path} must be an object"
  templates v path

/-- An output: its text is a template and its actions are objects of templates. -/
def output (o : Output) (path : String) : Result := do
  template o.response s!"{path}.response"
  each (fun i action => templateObject action s!"{path}.action[{i}]") o.actions

/-- An output that may not be absent. -/
def outputRequired (o : Option Output) (path : String) : Result :=
  match o with
  | some o => output o path
  | none => .error (.invalid s!"{path} is required")

/-- The texts and outputs of a rule; its pattern is only required. -/
def rule (r : Rule) (path : String) : Result := do
  demand (!Text.isBlankString r.subject) s!"{path}.string must not be empty"
  demand (!r.pattern.isEmpty) s!"{path}.pattern must not be empty"
  template r.subject s!"{path}.string"
  output r.output s!"{path}.output"
  ifAny (fun o => output o s!"{path}.nomatch-output") r.otherwise

/-- The names that the text of an iteration cannot take. -/
def reservedNames : List String :=
  [Scopes.argsName, Scopes.responseName, Scopes.globalName, Scopes.globalDataName,
   Scopes.thisName, Scopes.arrayName, Scopes.foreachName]

/-- An iteration. -/
def foreach (f : Foreach) (path : String) : Result := do
  valuePath f.input s!"{path}.input_key"
  demand (isPlainName f.output) s!"{path}.output_key '{f.output}' must be a plain name"
  demand (!reservedNames.contains f.output)
    s!"{path}.output_key '{f.output}' would shadow a built-in scope"
  demand (f.most != some 0) s!"{path}.max must be greater than zero"
  demand (!f.append.isEmpty) s!"{path}.append must not be empty"
  template f.append s!"{path}.append"

/-- The methods of webhooks. -/
def methods : List String := ["GET", "POST", "PUT", "PATCH", "DELETE"]

/-- Header fields: their names are tokens and differ by more than case, their values
are templates.  `seen` are the names before, in lower case. -/
def headers (path : String) (seen : List String) : Entries String → Result
  | [] => .ok ()
  | (name, value) :: rest => do
    demand (Text.isFieldName name) s!"{path}.headers: '{name}' is not a valid header name"
    let key := Text.lowerAscii name
    ensure (!seen.contains key)
      (.duplicate "header" name (some s!"Header names in {path} are case-insensitive"))
    template value s!"{path}.headers.{name}"
    headers path (key :: seen) rest

/-- A webhook of a tool with the given parameters. -/
def webhook (w : Webhook) (path : String) (declared : List String) : Result := do
  address w.url s!"{path}.url"
  demand (methods.contains w.method)
    (s!"{path}.method '{w.method}' is not supported (expected one of " ++
      Text.joinWith ", " methods ++ ")")
  headers path [] w.headers
  ifAny (fun v => templateObject v s!"{path}.params") w.params
  ifAny (fun field =>
    demand (!Text.isBlankString field) s!"{path}.form_param must not be empty") w.formParam
  each (fun i arg =>
    demand (declared.contains arg)
      s!"{path}.require_args[{i}] names undeclared parameter '{arg}'") w.requireArgs
  ifAny (fun f => foreach f s!"{path}.foreach") w.foreach
  outputRequired w.output s!"{path}.output"
  errorKeys w.errorKeys s!"{path}.error_keys"

/-- The listed values of a parameter: all of its type, and no two equal.  `before`
are the values before. -/
def choices (p : Property) (path : String) (before : List Json) : Nat → List Json → Result
  | _, [] => .ok ()
  | i, v :: rest => do
    demand (p.type.accepts v)
      s!"{path}.enum[{i}] ({v.compact}) is not of type {p.type.name}"
    ensure (!before.contains v)
      (.duplicate "enum value" v.compact (some s!"Remove the repeated value from {path}.enum"))
    choices p path (v :: before) (i + 1) rest

/-- A declared parameter. -/
def property (name : String) (p : Property) : Result := do
  let path := s!"parameters.properties.{name}"
  demand (isPlainName name)
    s!"parameter name '{name}' may only contain ASCII letters, digits, '_' and '-'"
  ifAny (fun values => do
    demand (!values.isEmpty) s!"{path}.enum must not be empty"
    choices p path [] 0 values) p.choices
  ifAny (fun v =>
    demand (p.type.accepts v)
      s!"{path}.default ({v.compact}) is not of type {p.type.name}") p.standard

/-- The names of required parameters: declared, and none twice.  `seen` are the names before. -/
def required (properties : Entries Property) (seen : List String) : Nat → List String → Result
  | _, [] => .ok ()
  | i, name :: rest => do
    demand (Entries.get? name properties).isSome
      s!"parameters.required[{i}] names undeclared parameter '{name}'"
    ensure (!seen.contains name) (.duplicate "required parameter" name none)
    required properties (name :: seen) (i + 1) rest

/-- The parameters of the tool `tool`. -/
def parameters (tool : String) (p : Parameters) : Result := do
  demand (p.type == "object")
    s!"parameters.type of tool '{tool}' must be \"object\", found \"{p.type}\""
  ifAny (fun name => .error (.duplicate "parameter" name
    (some s!"Parameter names of tool '{tool}' must be unique")))
    (Entries.firstRepeated? p.properties)
  required p.properties [] 0 p.required
  each (fun _ e => property e.1 e.2) p.properties

/-- The name of a tool: not blank, and without blanks. -/
def name (s : String) : Result := do
  demand (!Text.isBlankString s) "tool name ('function') must not be empty"
  demand (!s.toList.any Text.isBlank) s!"tool name '{s}' must not contain whitespace"

end Check
end AgentTool
