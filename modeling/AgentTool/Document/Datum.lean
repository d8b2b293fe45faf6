import AgentTool.Json.Basic

/-!
# Values as a file holds them

A file may repeat a key, and in some formats a key need not be a text.  A whole
number as the key of a record stands for the field at that position; in entries
that are named by text it has no meaning.

| value | as a plain value |
| --- | --- |
| an object whose keys are texts | an object, repeated keys merged |
| an object with another key | none |
| a number that is not finite | null |
-/

namespace AgentTool

/-- The key of a value in a file. -/
inductive Datum.Key where
  | text (name : String)
  | position (index : Nat)
  | other
  deriving DecidableEq, Repr

/-- A value as a file holds it. -/
inductive Datum where
  | null
  | bool (b : Bool)
  | int (n : Int)
  | float (x : Binary64)
  | infinite
  | str (s : String)
  | arr (items : List Datum)
  | obj (entries : List (Datum.Key × Datum))
  deriving Repr, Inhabited

namespace Datum

mutual

/-- A JSON value as a file holds it. -/
def ofJson : Json → Datum
  | .null => null
  | .bool b => bool b
  | .int n => int n
  | .float x => float x
  | .str s => str s
  | .arr items => arr (ofItems items)
  | .obj entries => obj (ofEntries entries)

/-- `ofJson` on the items of an array. -/
def ofItems : List Json → List Datum
  | [] => []
  | v :: vs => ofJson v :: ofItems vs

/-- `ofJson` on the values of entries. -/
def ofEntries : List (String × Json) → List (Key × Datum)
  | [] => []
  | (k, v) :: es => (.text k, ofJson v) :: ofEntries es

end

mutual

/-- The plain value, if every key is a text. -/
def toJson? : Datum → Option Json
  | null => some .null
  | bool b => some (.bool b)
  | int n => some (.int n)
  | float x => some (.float x)
  | infinite => some .null
  | str s => some (.str s)
  | arr items => (toItems? items).map .arr
  | obj entries => (toEntries? entries).map fun es => Json.ofEntries es

/-- `toJson?` on the items of an array. -/
def toItems? : List Datum → Option (List Json)
  | [] => some []
  | v :: vs => do return (← v.toJson?) :: (← toItems? vs)

/-- `toJson?` on entries whose keys are texts. -/
def toEntries? : List (Key × Datum) → Option (List (String × Json))
  | [] => some []
  | (.text k, v) :: es => do return (k, ← v.toJson?) :: (← toEntries? es)
  | _ :: _ => none

end

/-- Whether a value is null; a number that is not finite is not. -/
def isNull : Datum → Bool
  | null => true
  | _ => false

end Datum
end AgentTool
