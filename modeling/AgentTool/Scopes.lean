import AgentTool.Path.Walk

/-!
# Scopes

Templates look names up in layers of bindings, the innermost first.  A layer
added for one item or one response shadows the layers around it and leaves them
as they are.
-/

namespace AgentTool

/-- Layers of bindings: the innermost, and the layers around it from the inside out. -/
structure Scopes where
  inner : List (String × Json) := []
  outer : List (List (String × Json)) := []
  deriving Inhabited

namespace Scopes

/-- The arguments of the invocation. -/
def argsName : String := "args"

/-- The parsed response of a webhook. -/
def responseName : String := "response"

/-- The variables that the caller keeps across invocations. -/
def globalName : String := "global"

/-- A second name for the same variables. -/
def globalDataName : String := "global_data"

/-- The current item of an iteration. -/
def thisName : String := "this"

/-- A response that is an array. -/
def arrayName : String := "array"

/-- The position of the current item, as `foreach.index`. -/
def foreachName : String := "foreach"

/-- One layer without bindings. -/
def empty : Scopes := {}

/-- Binds, or binds again, a name in the innermost layer. -/
def bind (s : Scopes) (name : String) (value : Json) : Scopes :=
  { s with inner := Entries.insert s.inner name value }

/-- A new layer without bindings inside the others. -/
def push (s : Scopes) : Scopes := ⟨[], s.inner :: s.outer⟩

/-- The scopes of an invocation: its arguments, and the caller's variables under both names. -/
def forInvocation (args global : Json) : Scopes :=
  ((empty.bind argsName args).bind globalDataName global).bind globalName global

/-- The value of a name in layers, the innermost first. -/
def find? (name : String) : List (List (String × Json)) → Option Json
  | [] => none
  | layer :: rest =>
    match Entries.get? name layer with
    | some v => some v
    | none => find? name rest

/-- The value that a name is bound to. -/
def get? (s : Scopes) (name : String) : Option Json := find? name (s.inner :: s.outer)

/-- The value that a path names: its first step is the name of a binding. -/
def resolve? (s : Scopes) : Path → Option Json
  | .key name :: rest => (s.get? name).bind (Path.walk · rest)
  | _ => none

/-- The value that a textual path names. -/
def resolveText? (s : Scopes) (text : String) : Option Json := (Path.parse? text).bind s.resolve?

/-- The text that the value of a path stands for; nothing for an absent or null value. -/
def display? (s : Scopes) (path : Path) : Option String := (s.resolve? path).bind Json.display?

end Scopes
end AgentTool
