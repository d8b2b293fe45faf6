import AgentTool.Json.Printer

/-!
# Schemas of JSON values

A schema is a conjunction of keywords, and each keyword is itself a schema.  The
violations of a value are listed in the order of the keywords; below an array or
an object in the order of its items or properties.

| keyword | bears on | asks that |
| --- | --- | --- |
| `type` | every value | its kind is one of those named |
| `choices` | every value | it equals one of those listed |
| `nonnegative` | numbers | it is not below zero |
| `anyOf` | every value | some alternative admits it |
| `allOf` | every value | every part admits it |
| `items` | arrays | every item is admitted |
| `required` | objects | the keys are there |
| `properties` | objects | the value of each key listed is admitted |
| `additional` | objects | every value is admitted |

A value that no alternative admits is one violation; those of the alternatives
are not listed.
-/

namespace AgentTool
namespace Schema

/-- The kind of a value.  A float without a fraction is an integer here. -/
inductive Kind where
  | null | boolean | integer | string | array | object
  deriving DecidableEq, Repr

namespace Kind

/-- The name of a kind. -/
def name : Kind → String
  | null => "null"
  | boolean => "boolean"
  | integer => "integer"
  | string => "string"
  | array => "array"
  | object => "object"

/-- Whether a value is of the kind. -/
def admits : Kind → Json → Bool
  | null, .null => true
  | boolean, .bool _ => true
  | integer, .int _ => true
  | integer, .float x => x.isWhole
  | string, .str _ => true
  | array, .arr _ => true
  | object, .obj _ => true
  | _, _ => false

end Kind

/-- A step from a value to a part of it. -/
inductive Step where
  | key (name : String)
  | item (index : Nat)
  deriving DecidableEq, Repr

/-- A key with `~` and `/` written `~0` and `~1`. -/
def Step.escaped (key : String) : List Char :=
  key.toList.flatMap fun c => if c == '~' then ['~', '0'] else if c == '/' then ['~', '1'] else [c]

/-- The text of a step. -/
def Step.text : Step → String
  | key name => "/" ++ String.ofList (escaped name)
  | item index => s!"/{index}"

/-- The text of a place in a value; the whole value is at `/`. -/
def placeText (place : List Step) : String :=
  if place.isEmpty then "/" else String.join (place.map Step.text)

/-- What a value violates. -/
inductive Cause where
  | kind (value : Json) (kinds : List Kind)
  | choice (value : Json) (choices : List Json)
  | negative (value : Json)
  | missing (key : String)
  | noAlternative (value : Json)

/-- The text of a cause; of several kinds the names are sorted. -/
def Cause.text : Cause → String
  | kind v [k] => s!"{v.compact} is not of type {(Json.str k.name).compact}"
  | kind v ks =>
    let sorted := (ks.map Kind.name).mergeSort fun a b => decide (a ≤ b)
    let names := ", ".intercalate (sorted.map fun n => (Json.str n).compact)
    s!"{v.compact} is not of types {names}"
  | choice v cs => s!"{v.compact} is not one of {(Json.arr cs).compact}"
  | negative v => s!"{v.compact} is less than the minimum of 0"
  | missing key => s!"{(Json.str key).compact} is a required property"
  | noAlternative v =>
    s!"{v.compact} is not valid under any of the schemas listed in the 'anyOf' keyword"

/-- A violation and the place of the value that has it. -/
structure Violation where
  place : List Step
  cause : Cause

/-- The violation seen from a value that the step leads down from. -/
def Violation.below (step : Step) (v : Violation) : Violation := { v with place := step :: v.place }

end Schema

/-- A schema.  `named` is written as a reference to its name, and `note` asks for nothing. -/
inductive Schema where
  | anything
  | named (name : String) (schema : Schema)
  | node (keywords : List Schema)
  | note (key : String) (value : Json)
  | type (kinds : List Schema.Kind)
  | choices (values : List Json)
  | nonnegative
  | anyOf (alternatives : List Schema)
  | allOf (parts : List Schema)
  | items (schema : Schema)
  | required (keys : List String)
  | properties (schemas : List (String × Schema))
  | additional (schema : Schema)

namespace Schema

/-- Whether a value is a number below zero. -/
def isBelowZero : Json → Bool
  | .int n => decide (n < 0)
  | .float x => x.isNegative
  | _ => false

mutual

/-- The violations of a value. -/
def violations : Schema → Json → List Violation
  | anything, _ => []
  | named _ s, v => s.violations v
  | node ks, v => allViolations ks v
  | note _ _, _ => []
  | type kinds, v => if kinds.any (·.admits v) then [] else [⟨[], .kind v kinds⟩]
  | choices values, v => if values.any (·.same v) then [] else [⟨[], .choice v values⟩]
  | nonnegative, v => if isBelowZero v then [⟨[], .negative v⟩] else []
  | anyOf alternatives, v => if someAdmits alternatives v then [] else [⟨[], .noAlternative v⟩]
  | allOf parts, v => allViolations parts v
  | items s, .arr vs =>
    (vs.zipIdx.map fun (v, i) => (s.violations v).map (Violation.below (.item i))).flatten
  | items _, _ => []
  | required keys, .obj es =>
    (keys.filter fun k => (Entries.get? k es).isNone).map fun k => ⟨[], .missing k⟩
  | required _, _ => []
  | properties schemas, .obj es => propertyViolations schemas es
  | properties _, _ => []
  | additional s, .obj es =>
    (es.map fun (k, v) => (s.violations v).map (Violation.below (.key k))).flatten
  | additional _, _ => []

/-- The violations of several schemas, one schema after the other. -/
def allViolations : List Schema → Json → List Violation
  | [], _ => []
  | s :: ss, v => s.violations v ++ allViolations ss v

/-- Whether a value violates nothing of some schema. -/
def someAdmits : List Schema → Json → Bool
  | [], _ => false
  | s :: ss, v => (s.violations v).isEmpty || someAdmits ss v

/-- The violations of the values of the keys listed. -/
def propertyViolations : List (String × Schema) → List (String × Json) → List Violation
  | [], _ => []
  | (k, s) :: ss, es =>
    (match Entries.get? k es with
      | some v => (s.violations v).map (Violation.below (.key k))
      | none => []) ++ propertyViolations ss es

end

mutual

/-- The fields that write a schema. -/
def fields : Schema → List (String × Json)
  | anything => []
  | named name _ => [("$ref", .str ("#/definitions/" ++ name))]
  | node ks => allFields ks
  | note key v => [(key, v)]
  | type [k] => [("type", .str k.name)]
  | type ks => [("type", .arr (ks.map fun k => .str k.name))]
  | choices vs => [("enum", .arr vs)]
  | nonnegative => [("minimum", .float (.zero false))]
  | anyOf ss => [("anyOf", .arr (texts ss))]
  | allOf ss => [("allOf", .arr (texts ss))]
  | items s => [("items", s.toJson)]
  | required keys => [("required", .arr (keys.map .str))]
  | properties ss => [("properties", .obj (propertyTexts ss))]
  | additional s => [("additionalProperties", s.toJson)]

/-- A schema as a value; the schema that admits anything is `true`. -/
def toJson : Schema → Json
  | anything => .bool true
  | s => .obj s.fields

/-- The fields of several keywords. -/
def allFields : List Schema → List (String × Json)
  | [] => []
  | s :: ss => s.fields ++ allFields ss

/-- Several schemas as values. -/
def texts : List Schema → List Json
  | [] => []
  | s :: ss => s.toJson :: texts ss

/-- The schemas of properties as values. -/
def propertyTexts : List (String × Schema) → List (String × Json)
  | [] => []
  | (k, s) :: ss => (k, s.toJson) :: propertyTexts ss

end

mutual

/-- The schemas that are written as references, with their names. -/
def definitions : Schema → List (String × Schema)
  | named name s => (name, s) :: s.definitions
  | node ks => allDefinitions ks
  | anyOf ss => allDefinitions ss
  | allOf ss => allDefinitions ss
  | items s => s.definitions
  | properties ss => propertyDefinitions ss
  | additional s => s.definitions
  | _ => []

/-- The definitions within several schemas. -/
def allDefinitions : List Schema → List (String × Schema)
  | [] => []
  | s :: ss => s.definitions ++ allDefinitions ss

/-- The definitions within the schemas of properties. -/
def propertyDefinitions : List (String × Schema) → List (String × Schema)
  | [] => []
  | (_, s) :: ss => s.definitions ++ propertyDefinitions ss

end

/-- A schema with its definitions, sorted by name, each written once. -/
def withDefinitions (s : Schema) : Json :=
  let found := Entries.insertAll [] (s.definitions.map fun (n, d) => (n, d.toJson))
  .obj (s.fields ++ [("definitions", .obj (found.mergeSort fun a b => decide (a.1 ≤ b.1)))])

/-- Whether a value has no violation. -/
def admits (s : Schema) (v : Json) : Bool := (s.violations v).isEmpty

end Schema
end AgentTool
