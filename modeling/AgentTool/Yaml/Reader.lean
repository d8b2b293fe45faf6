import AgentTool.Yaml.Node
import AgentTool.Yaml.Scalar

/-!
# Values of YAML text

A node has two readings.  As a plain value every key is the text of a scalar,
whatever it looks like, and of a repeated key the last value stays; as a value
of a file keys are read like other scalars, and all entries stay.
-/

namespace AgentTool
namespace Yaml

/-- The text of a key. -/
def Node.keyText? : Node → Option String
  | .scalar _ text _ => some text
  | _ => none

/-- The key that a value is. -/
def key (v : Datum) : Datum.Key :=
  match v with
  | .str s => .text s
  | .int n => if 0 ≤ n then .position n.toNat else .other
  | _ => .other

namespace Node

mutual

/-- The node as a plain value. -/
def toJson? : Node → Option Json
  | .scalar tag text plain => (Scalar.read? tag text plain).bind Datum.toJson?
  | .list tag items => if Scalar.isLocal tag then none else (toItems? items).map .arr
  | .map tag entries =>
    if Scalar.isLocal tag then none else (toEntries? entries).map Json.ofEntries

/-- The items of a list as plain values. -/
def toItems? : List Node → Option (List Json)
  | [] => some []
  | n :: ns => do return (← n.toJson?) :: (← toItems? ns)

/-- The entries of a map as plain values. -/
def toEntries? : List (Node × Node) → Option (List (String × Json))
  | [] => some []
  | (k, v) :: es => do return (← k.keyText?, ← v.toJson?) :: (← toEntries? es)

end

mutual

/-- The node as a value of a file. -/
def toDatum? : Node → Option Datum
  | .scalar tag text plain => Scalar.read? tag text plain
  | .list tag items => if Scalar.isLocal tag then none else (toData? items).map .arr
  | .map tag entries => if Scalar.isLocal tag then none else (toKeyed? entries).map .obj

/-- The items of a list as values of a file. -/
def toData? : List Node → Option (List Datum)
  | [] => some []
  | n :: ns => do return (← n.toDatum?) :: (← toData? ns)

/-- The entries of a map as values of a file. -/
def toKeyed? : List (Node × Node) → Option (List (Datum.Key × Datum))
  | [] => some []
  | (k, v) :: es => do return (key (← k.toDatum?), ← v.toDatum?) :: (← toKeyed? es)

end

end Node

/-- A reading of the node that a text holds. -/
def readWith {α : Type} (reading : Node → Option α) (text : String) : Except Error α := do
  match reading (← Node.ofText? text) with
  | some v => .ok v
  | none => .error ⟨.noMeaning, none⟩

/-- The plain value of a text. -/
def value? : String → Except Error Json := readWith Node.toJson?

/-- The value of a text as a file holds it. -/
def datum? : String → Except Error Datum := readWith Node.toDatum?

end Yaml
end AgentTool
