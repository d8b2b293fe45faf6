import AgentTool.Path.Basic
import AgentTool.Json.Printer

/-!
# Following a path

`walk` follows the steps of a path from a value inwards.  Keys are looked up in
objects, indices in arrays and, as decimal keys, in objects.  A last step
`length` that names no field yields the size of an array, an object or a string.
-/

namespace AgentTool
namespace Path

/-- The number of items, of entries, or of characters. -/
def length? : Json → Option Nat
  | .arr items => some items.length
  | .obj entries => some entries.length
  | .str s => some s.length
  | _ => none

/-- The value that an index names. -/
def item? (v : Json) (n : Nat) : Option Json :=
  match v with
  | .arr items => items[n]?
  | .obj entries => Entries.get? (toString n) entries
  | _ => none

/-- The value that a path names within `v`. -/
def walk (v : Json) : Path → Option Json
  | [] => some v
  | .key k :: rest =>
    match v.field? k with
    | some w => walk w rest
    | none =>
      if rest.isEmpty ∧ k = "length" then (length? v).map fun n => .int n else none
  | .index n :: rest =>
    match item? v n with
    | some w => walk w rest
    | none => none

/-- The value that a textual path names; a text that is no path names nothing. -/
def get? (v : Json) (text : String) : Option Json := (parse? text).bind (walk v)

end Path
end AgentTool
