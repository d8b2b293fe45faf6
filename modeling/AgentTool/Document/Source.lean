import AgentTool.Document.Decode
import AgentTool.Document.Schema
import AgentTool.Files.Path
import AgentTool.Json.Reader
import AgentTool.Yaml.Reader

/-!
# Documents from text

A text holds one document, a list of documents, or an object with the list under
`functions`.  It is read twice: as plain values, each of which is checked against
the schema, and then as a file holds it, so that repeated keys reach the compiler.

| shape of the text | values that are checked |
| --- | --- |
| a list | its items |
| an object with a list under `functions` and without `function` | the items of that list |
| another object | the object |
| anything else | none: it is refused |
-/

namespace AgentTool

/-- The format of a text. -/
inductive Format where
  | json | yaml
  deriving DecidableEq, Repr

/-- The format that the extension of a path tells. -/
def Format.ofPath? (path : String) : Option Format :=
  match (FilePath.extension? path).map Text.lowerAscii with
  | some "json" => some .json
  | some "yaml" => some .yaml
  | some "yml" => some .yaml
  | _ => none

namespace Source

/-- The plain value of a text. -/
def value (format : Format) (text : String) : Except DefinitionError Json :=
  match format with
  | .json => match Json.read? text with
    | some v => .ok v
    | none => .error (.invalid "invalid JSON: expected one value")
  | .yaml => match Yaml.value? text with
    | .ok v => .ok v
    | .error e => .error (.yaml e.message)

/-- The values that a plain value holds as documents. -/
def parts : Json → Except DefinitionError (List Json)
  | .arr items => .ok items
  | .obj entries =>
    match Entries.get? "functions" entries, Entries.get? "function" entries with
    | some (.arr items), none => .ok items
    | _, _ => .ok [.obj entries]
  | _ => .error (.invalid "a definition file must hold an object or a list of objects")

/-- The documents under `functions`. -/
def wrapped? : Decode.Reader (List Document)
  | .obj entries => do
    let r ← Decode.record? [["functions"]] (.obj entries)
    r.required "functions" (Decode.list Document.ofDatum?)
  | _ => none

/-- The documents of a value: those under `functions`, else those of a list, else the one. -/
def set? (v : Datum) : Option (List Document) :=
  wrapped? v <|> Decode.list Document.ofDatum? v <|> (Document.ofDatum? v).map fun d => [d]

/-- The documents of a text whose values have been checked. -/
def decoded (format : Format) (text : String) : Except DefinitionError (List Document) :=
  match format with
  | .json => match (Json.readEntries? text).bind fun v => set? (.ofJson v) with
    | some ds => .ok ds
    | none => .error (.invalid "invalid document: no form of a definition file fits")
  | .yaml => match Yaml.datum? text with
    | .error e => .error (.yaml e.message)
    | .ok v => match set? v with
      | some ds => .ok ds
      | none => .error (.yaml "no form of a definition file fits")

/-- The documents of a text. -/
def documents (format : Format) (text : String) : Except DefinitionError (List Document) := do
  for part in ← parts (← value format text) do
    Document.validate part
  decoded format text

end Source
end AgentTool
