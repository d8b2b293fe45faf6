import AgentTool.Decimal.Binary64
import AgentTool.Entries

/-!
# JSON values

Objects are lists of entries in the order in which their keys arrived.  A value
that was read from text and not yet merged may hold a key twice; `merged` keeps
the first position and the last value of each key.  Integers and floats are
different values: `1` is not `1.0`.
-/

namespace AgentTool

/-- A JSON value. -/
inductive Json where
  | null
  | bool (b : Bool)
  | int (n : Int)
  | float (x : Binary64)
  | str (s : String)
  | arr (items : List Json)
  | obj (entries : List (String × Json))
  deriving Repr, Inhabited

namespace Json

/-- The field of an object; nothing for any other value. -/
def field? (v : Json) (key : String) : Option Json :=
  match v with
  | .obj entries => Entries.get? key entries
  | _ => none

/-- An object built from entries whose keys may repeat. -/
def ofEntries (entries : List (String × Json)) : Json := .obj (Entries.insertAll [] entries)

mutual

/-- The value with every object merged: the first position and the last value of a key stay. -/
def merged : Json → Json
  | .arr items => .arr (mergedItems items)
  | .obj entries => .obj (Entries.insertAll [] (mergedEntries entries))
  | v => v

/-- `merged` on the items of an array. -/
def mergedItems : List Json → List Json
  | [] => []
  | v :: vs => v.merged :: mergedItems vs

/-- `merged` on the values of entries. -/
def mergedEntries : List (String × Json) → List (String × Json)
  | [] => []
  | (k, v) :: es => (k, v.merged) :: mergedEntries es

end

mutual

/-- The value with every text in it replaced; keys stay as they are. -/
def mapTexts (f : String → String) : Json → Json
  | .str s => .str (f s)
  | .arr items => .arr (mapItemTexts f items)
  | .obj entries => .obj (mapEntryTexts f entries)
  | v => v

/-- `mapTexts` on the items of an array. -/
def mapItemTexts (f : String → String) : List Json → List Json
  | [] => []
  | v :: vs => v.mapTexts f :: mapItemTexts f vs

/-- `mapTexts` on the values of entries. -/
def mapEntryTexts (f : String → String) : List (String × Json) → List (String × Json)
  | [] => []
  | (k, v) :: es => (k, v.mapTexts f) :: mapEntryTexts f es

end

mutual

/-- Equality of values: the order of keys does not count, the kind of a number does. -/
def same : Json → Json → Bool
  | .null, .null => true
  | .bool a, .bool b => a == b
  | .int a, .int b => a == b
  | .float a, .float b => a.sameValue b
  | .str a, .str b => a == b
  | .arr a, .arr b => sameItems a b
  | .obj a, .obj b => a.length == b.length && sameEntries a b
  | _, _ => false

/-- `same`, item by item. -/
def sameItems : List Json → List Json → Bool
  | [], [] => true
  | a :: as, b :: bs => a.same b && sameItems as bs
  | _, _ => false

/-- Every entry has an equal one in the object `other`. -/
def sameEntries : List (String × Json) → List (String × Json) → Bool
  | [], _ => true
  | (k, v) :: es, other =>
    (match Entries.get? k other with
      | some w => v.same w
      | none => false) && sameEntries es other

end

instance : BEq Json := ⟨same⟩

/-- The text of a string value. -/
def str? : Json → Option String
  | .str s => some s
  | _ => none

/-- Truthiness: not null, false, zero, or empty. -/
def isTruthy : Json → Bool
  | .null => false
  | .bool b => b
  | .int n => n != 0
  | .float x => !x.isZero
  | .str s => !s.isEmpty
  | .arr items => !items.isEmpty
  | .obj entries => !entries.isEmpty

/-- A null value. -/
def isNull : Json → Bool
  | .null => true
  | _ => false

/-- An object value. -/
def isObject : Json → Bool
  | .obj _ => true
  | _ => false

end Json
end AgentTool
