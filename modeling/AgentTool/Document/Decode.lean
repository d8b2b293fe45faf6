import AgentTool.Document.Basic
import AgentTool.Document.Datum

/-!
# Documents from values

A record is read from an object, or from an array of its fields in order.  A
field may go by several names but is given only once; fields without a meaning
are passed over, repeated or not.  A field that may be absent may be null only
if absence is what it then stands for.

The values that are read may hold repeated keys.  Declared entries, such as
parameters and headers, keep them; plain values are merged.
-/

namespace AgentTool
namespace Decode

/-- Reads a value into a type, if it has the shape. -/
abbrev Reader (α : Type) := Datum → Option α

/-- A text. -/
def text : Reader String
  | .str s => some s
  | _ => none

/-- A flag. -/
def flag : Reader Bool
  | .bool b => some b
  | _ => none

/-- A number of items or bytes: an integer of 64 bits without sign. -/
def natural : Reader Nat
  | .int n => if 0 ≤ n ∧ n < UInt64.size then some n.toNat else none
  | _ => none

/-- Any value. -/
def value : Reader Json := Datum.toJson?

/-- A list of equal shape. -/
def list {α : Type} (item : Reader α) : Reader (List α)
  | .arr items => items.mapM item
  | _ => none

/-- A value, or null. -/
def nullable {α : Type} (read : Reader α) : Reader (Option α)
  | .null => some none
  | v => (read v).map some

/-- Entries as declared, repeated keys included. -/
def entries {α : Type} (item : Reader α) : Reader (Entries α)
  | .obj es => es.mapM fun e =>
    match e.1 with
    | .text k => (item e.2).map fun v => (k, v)
    | _ => none
  | _ => none

/-- The fields of a record by their first names. -/
abbrev Record := List (String × Datum)

/-- The field that a key names, by its first name; nothing if no field has the key.  A key that
is neither a text nor a position is refused. -/
def fieldOf? (fields : List (List String)) : Datum.Key → Option (Option String)
  | .text k => some ((fields.find? fun names => names.contains k).bind List.head?)
  | .position n => some (fields[n]?.bind List.head?)
  | .other => none

/-- The fields that the entries of a record give. -/
def given? (fields : List (List String)) : List (Datum.Key × Datum) → Option Record
  | [] => some []
  | (k, v) :: es => do
    let rest ← given? fields es
    match ← fieldOf? fields k with
    | some name => some ((name, v) :: rest)
    | none => some rest

/-- The record of a value; each field is a list of names. -/
def record? (fields : List (List String)) : Datum → Option Record
  | .obj es => do
    let known ← given? fields es
    if (Entries.firstRepeated? known).isSome then none else some known
  | .arr items =>
    if items.length ≤ fields.length then some ((fields.filterMap List.head?).zip items) else none
  | _ => none

namespace Record

/-- A field that must be given. -/
def required {α : Type} (r : Record) (key : String) (read : Reader α) : Option α :=
  (Entries.get? key r).bind read

/-- A field that has a default. -/
def withDefault {α : Type} (r : Record) (key : String) (read : Reader α) (default : α) :
    Option α :=
  match Entries.get? key r with
  | some v => read v
  | none => some default

/-- A field that may be absent or null. -/
def optional {α : Type} (r : Record) (key : String) (read : Reader α) : Option (Option α) :=
  r.withDefault key (nullable read) none

end Record

/-- A name given as a text, or as an object with the name as its one key and null as its value. -/
def unitName : Reader String
  | .str s => some s
  | .obj [(.text k, .null)] => some k
  | _ => none

end Decode

open Decode

/-- The type of a parameter. -/
def ParamType.ofDatum? (v : Datum) : Option ParamType := (unitName v).bind ParamType.ofName?

/-- The declaration of a parameter. -/
def Property.ofDatum? (v : Datum) : Option Property := do
  let r ← record? [["type"], ["description"], ["enum"], ["items"], ["default"]] v
  return {
    type := ← r.required "type" ParamType.ofDatum?
    description := ← r.withDefault "description" text ""
    choices := ← r.optional "enum" (list value)
    items := ← r.optional "items" value
    standard := ← r.optional "default" value }

/-- The parameters of a tool. -/
def Parameters.ofDatum? (v : Datum) : Option Parameters := do
  let r ← record? [["type"], ["properties"], ["required"]] v
  return {
    type := ← r.withDefault "type" text "object"
    properties := ← r.withDefault "properties" (entries Property.ofDatum?) []
    required := ← r.withDefault "required" (list text) [] }

/-- An output. -/
def Output.ofDatum? (v : Datum) : Option Output := do
  let r ← record? [["response"], ["action"], ["post_process"]] v
  return {
    response := ← r.required "response" text
    actions := ← r.withDefault "action" (list value) []
    postProcess := ← r.withDefault "post_process" flag false }

/-- An aggregation. -/
def Foreach.ofDatum? (v : Datum) : Option Foreach := do
  let r ← record? [["input_key"], ["output_key"], ["max"], ["append"], ["require_items"]] v
  return {
    input := ← r.required "input_key" text
    output := ← r.required "output_key" text
    most := ← r.optional "max" natural
    append := ← r.required "append" text
    requireItems := ← r.withDefault "require_items" flag false }

/-- A webhook. -/
def Webhook.ofDatum? (v : Datum) : Option Webhook := do
  let r ← record? [["url"], ["method"], ["headers"], ["params"], ["form_param"],
    ["input_args_as_params"], ["require_args"], ["foreach"], ["output"], ["error_keys"]] v
  return {
    url := ← r.required "url" text
    method := ← r.withDefault "method" text "GET"
    headers := ← r.withDefault "headers" (entries text) []
    params := ← r.optional "params" value
    formParam := ← r.optional "form_param" text
    argsAsParams := ← r.withDefault "input_args_as_params" flag false
    requireArgs := ← r.withDefault "require_args" (list text) []
    foreach := ← r.optional "foreach" Foreach.ofDatum?
    output := ← r.optional "output" Output.ofDatum?
    errorKeys := ← r.withDefault "error_keys" (list text) [] }

/-- A rule. -/
def Rule.ofDatum? (v : Datum) : Option Rule := do
  let r ← record? [["string"], ["pattern"], ["output"], ["nomatch-output", "nomatch_output"]] v
  return {
    subject := ← r.required "string" text
    pattern := ← r.required "pattern" text
    output := ← r.required "output" Output.ofDatum?
    otherwise := ← r.optional "nomatch-output" Output.ofDatum? }

/-- A data map. -/
def DataMap.ofDatum? (v : Datum) : Option DataMap := do
  let r ← record? [["expressions"], ["webhooks"], ["output", "fallback_output"], ["error_keys"]] v
  return {
    rules := ← r.withDefault "expressions" (list Rule.ofDatum?) []
    webhooks := ← r.withDefault "webhooks" (list Webhook.ofDatum?) []
    fallback := ← r.optional "output" Output.ofDatum?
    errorKeys := ← r.withDefault "error_keys" (list text) [] }

/-- A document. -/
def Document.ofDatum? (v : Datum) : Option Document := do
  let r ← record? [["function"], ["description", "purpose"], ["parameters"], ["data_map"],
    ["web_hook_url"]] v
  return {
    name := ← r.required "function" text
    description := ← r.withDefault "description" text ""
    parameters := ← r.withDefault "parameters" Parameters.ofDatum? {}
    dataMap := ← r.optional "data_map" DataMap.ofDatum?
    webhookUrl := ← r.optional "web_hook_url" text }

/-! ## From JSON -/

/-- The type of a parameter, from JSON. -/
def ParamType.ofJson? (v : Json) : Option ParamType := ofDatum? (.ofJson v)

/-- An output, from JSON. -/
def Output.ofJson? (v : Json) : Option Output := ofDatum? (.ofJson v)

/-- An aggregation, from JSON. -/
def Foreach.ofJson? (v : Json) : Option Foreach := ofDatum? (.ofJson v)

/-- A webhook, from JSON. -/
def Webhook.ofJson? (v : Json) : Option Webhook := ofDatum? (.ofJson v)

/-- A rule, from JSON. -/
def Rule.ofJson? (v : Json) : Option Rule := ofDatum? (.ofJson v)

/-- A document, from JSON. -/
def Document.ofJson? (v : Json) : Option Document := ofDatum? (.ofJson v)

end AgentTool
