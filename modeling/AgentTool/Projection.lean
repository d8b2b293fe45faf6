import AgentTool.Failure
import AgentTool.Template.Expand

/-!
# From replies to answers

A reply is bound as `response`, and as `array` if it is one.  Projection then
checks the error keys, joins the items of an array into one text, and expands
the output of the webhook.

Each item is bound to `this` and its position to `foreach.index`.  An object
keeps its fields and gains `index` unless it has one; any other item becomes an
object of `value` and `index`.
-/

namespace AgentTool

/-- An output with every template expanded. -/
structure Rendered where
  response : String := ""
  actions : List Json := []
  postProcess : Bool := false
  deriving Inhabited

namespace Rendered

/-- An answer of text alone. -/
def ofText (s : String) : Rendered := { response := s }

/-- Neither text nor actions. -/
def isBlank (r : Rendered) : Bool := Text.isBlankString r.response && r.actions.isEmpty

/-- An answer as JSON, with every field. -/
def toJson (r : Rendered) : Json :=
  .obj [("response", .str r.response), ("action", .arr r.actions),
    ("post_process", .bool r.postProcess)]

/-- An answer as the host reads it: actions and the flag only if there are any. -/
def toHostJson (r : Rendered) : Json :=
  .obj ([("response", .str r.response)] ++
    (if r.actions.isEmpty then [] else [("action", .arr r.actions)]) ++
    (if r.postProcess then [("post_process", .bool true)] else []))

end Rendered

/-- Expands the templates of an output. -/
def Output.render (o : Output) (scopes : Scopes) (R : Reading := .standard) : Rendered where
  response := R.text o.response scopes
  actions := o.actions.map (Json.mapTexts fun s => R.text s scopes)
  postProcess := o.postProcess

/-- Binds a reply. -/
def Scopes.bindResponse (s : Scopes) (body : Json) : Scopes :=
  let s := match body with
    | .arr _ => s.bind Scopes.arrayName body
    | _ => s
  s.bind Scopes.responseName body

/-- Whether the value at a path of a reply is true. -/
def isTriggered (body : Json) (key : String) : Bool := (Path.get? body key).any Json.isTruthy

/-- The first key that is true in a reply. -/
def triggeredKey? (keys : List String) (body : Json) : Option String := keys.find? (isTriggered body)

namespace Foreach

/-- The item as it is bound. -/
def boundItem (index : Nat) : Json → Json
  | .obj fields => .obj (Entries.fill fields [("index", .int index)])
  | v => .obj [("value", v), ("index", .int index)]

/-- The scopes of one item. -/
def itemScopes (scopes : Scopes) (index : Nat) (item : Json) : Scopes :=
  (scopes.push.bind Scopes.thisName (boundItem index item)).bind Scopes.foreachName
    (.obj [("index", .int index)])

/-- The items of a reply that are used; none if the path does not lead to an array. -/
def items (f : Foreach) (body : Json) : List Json :=
  match Path.get? body f.input with
  | some (.arr items) =>
    match f.most with
    | some n => items.take n
    | none => items
  | _ => []

/-- The texts of items from a position on. -/
def texts (append : String) (scopes : Scopes) (index : Nat) (vs : List Json)
    (R : Reading := .standard) : List String :=
  match vs with
  | [] => []
  | v :: vs => R.text append (itemScopes scopes index v) :: texts append scopes (index + 1) vs R

/-- The text of a reply and the number of items in it. -/
def run (f : Foreach) (body : Json) (scopes : Scopes) (R : Reading := .standard) : String × Nat :=
  (String.join (texts f.append scopes 0 (f.items body) R), (f.items body).length)

end Foreach

namespace Webhook

/-- The scopes of the output: those of the reply with the text of its items. -/
def outputScopes (w : Webhook) (body : Json) (scopes : Scopes) (R : Reading := .standard) :
    Except Failure Scopes :=
  match w.foreach with
  | none => .ok scopes.push
  | some f =>
    let (text, count) := f.run body scopes R
    if count = 0 ∧ f.requireItems = true then .error .emptyResults
    else .ok (scopes.push.bind f.output (.str text))

/-- The answer that a reply leads to; `scopes` already bind the reply. -/
def project (w : Webhook) (errorKeys : List String) (body : Json) (scopes : Scopes)
    (R : Reading := .standard) : Except Failure Rendered :=
  match triggeredKey? (w.errorKeys ++ errorKeys) body with
  | some key => .error (.errorKey key)
  | none => do
    let layer ← w.outputScopes body scopes R
    match w.output with
    | some o => return o.render layer R
    | none => throw .invalidRequest

end Webhook
end AgentTool
