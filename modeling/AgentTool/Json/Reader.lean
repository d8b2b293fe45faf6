import AgentTool.Json.Basic
import AgentTool.Json.Token

/-!
# Reading JSON values

`build` turns tokens into a value with a stack of the containers that are still
open, one step per token.  At most 127 containers may be open at once.
`readEntries?` keeps every entry as written, repeated keys included; `read?`
merges repeated keys.
-/

namespace AgentTool
namespace Json

/-- A container under construction, its contents in reverse. -/
inductive Frame where
  | arr (items : List Json)
  | obj (entries : List (String × Json)) (key : String)

/-- What the next token may be. -/
inductive Expect where
  /-- a value -/
  | value
  /-- a value, or the end of the array just opened -/
  | firstItem
  /-- a key -/
  | key
  /-- a key, or the end of the object just opened -/
  | firstKey
  /-- the colon after a key -/
  | colon
  /-- a comma or the end of the innermost container, or the end of the text -/
  | after (v : Json)

/-- The most containers that may be open at once. -/
def depthLimit : Nat := 127

/-- A complete value in the innermost container, or on its own. -/
def scalar? : Token → Option Json
  | .null => some .null
  | .bool b => some (.bool b)
  | .int n => some (.int n)
  | .float x => some (.float x)
  | .str s => some (.str s)
  | _ => none

/-- One token further. -/
def step (stack : List Frame) (expect : Expect) (t : Token) : Option (List Frame × Expect) :=
  match expect, t with
  | .value, .openArr | .firstItem, .openArr =>
    if stack.length < depthLimit then some (.arr [] :: stack, .firstItem) else none
  | .value, .openObj | .firstItem, .openObj =>
    if stack.length < depthLimit then some (.obj [] "" :: stack, .firstKey) else none
  | .value, t => (scalar? t).map fun v => (stack, .after v)
  | .firstItem, .closeArr =>
    match stack with
    | .arr _ :: stack => some (stack, .after (.arr []))
    | _ => none
  | .firstItem, t => (scalar? t).map fun v => (stack, .after v)
  | .firstKey, .closeObj =>
    match stack with
    | .obj _ _ :: stack => some (stack, .after (.obj []))
    | _ => none
  | .firstKey, .str s | .key, .str s =>
    match stack with
    | .obj entries _ :: stack => some (.obj entries s :: stack, .colon)
    | _ => none
  | .colon, .colon => some (stack, .value)
  | .after v, .comma =>
    match stack with
    | .arr items :: stack => some (.arr (v :: items) :: stack, .value)
    | .obj entries k :: stack => some (.obj ((k, v) :: entries) k :: stack, .key)
    | [] => none
  | .after v, .closeArr =>
    match stack with
    | .arr items :: stack => some (stack, .after (.arr (v :: items).reverse))
    | _ => none
  | .after v, .closeObj =>
    match stack with
    | .obj entries k :: stack => some (stack, .after (.obj ((k, v) :: entries).reverse))
    | _ => none
  | _, _ => none

/-- Reads tokens from a given state on. -/
def build : (stack : List Frame) → Expect → List Token → Option (List Frame × Expect)
  | stack, expect, [] => some (stack, expect)
  | stack, expect, t :: ts =>
    match step stack expect t with
    | some (stack, expect) => build stack expect ts
    | none => none

/-- The value of a whole token sequence. -/
def ofTokens? (ts : List Token) : Option Json :=
  match build [] .value ts with
  | some ([], .after v) => some v
  | _ => none

/-- The value of a text, with the entries of every object as written. -/
def readEntries? (s : String) : Option Json := (tokenize? s.toList).bind ofTokens?

/-- The value of a text. -/
def read? (s : String) : Option Json := (readEntries? s).map merged

end Json
end AgentTool
