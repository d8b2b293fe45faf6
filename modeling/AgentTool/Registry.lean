import AgentTool.Tool.Compile

/-!
# The table of tools

Tools are kept in the order of their registration, with an index from each name
to the position of its tool.  A batch is registered as a whole or not at all: it
is refused if one of its names is in the table or comes a second time.

A shared table is changed while others read it.  Each change publishes a table of
its own and leaves those that were published before as they are, so a snapshot
keeps showing the table that it was taken of.
-/

namespace AgentTool

/-- Tools in the order of their registration, and where they stand by their names. -/
structure Registry where
  tools : List Tool := []
  /-- the position of each name -/
  index : Entries Nat := tools.zipIdx.map fun p => (p.1.name, p.2)

namespace Registry

/-- The table without tools. -/
def empty : Registry := {}

instance : Inhabited Registry := ⟨empty⟩

/-- The names of the tools. -/
def names (r : Registry) : List String := r.tools.map Tool.name

/-- The tool of a name. -/
def get? (r : Registry) (name : String) : Option Tool :=
  (Entries.get? name r.index).bind fun i => r.tools[i]?

/-- What the host is told about each tool. -/
def descriptors (r : Registry) : List Json := r.tools.map Tool.descriptor

/-- The refusal of a name that is taken. -/
def nameTaken (name : String) : DefinitionError :=
  .duplicate "tool" name (some "Each tool name may be registered once per engine")

/-- The table with a tool at its end, whose name must not be in the index. -/
def push (r : Registry) (t : Tool) : Except DefinitionError Registry :=
  if (Entries.get? t.name r.index).isSome then .error (nameTaken t.name)
  else .ok {
    tools := r.tools ++ [t]
    index := Entries.insert r.index t.name r.tools.length }

/-- The table with all tools of a batch, or none of them. -/
def registerAll (r : Registry) (batch : List Tool) : Except DefinitionError Registry :=
  batch.foldlM push r

/-- The table with one more tool, whose name must be new. -/
def register (r : Registry) (t : Tool) : Except DefinitionError Registry := r.registerAll [t]

end Registry

/-- What is registered at once. -/
inductive Registration where
  | tool (t : Tool)
  | batch (ts : List Tool)
  /-- a document that is compiled first -/
  | document (d : Document)

/-- The tools of a registration, if its document compiles. -/
def Registration.tools : Registration → Except DefinitionError (List Tool)
  | tool t => .ok [t]
  | batch ts => .ok ts
  | document d => (d.compile none).map fun t => [t]

/-- A table that is shared: the current one, and those that were published before it, in order. -/
structure SharedRegistry where
  current : Registry := .empty
  past : List Registry := []

namespace SharedRegistry

/-- What the holder of a shared table is asked for. -/
inductive Call where
  | register (r : Registration)
  | get (name : String)
  | names
  | descriptors
  | snapshot
  /-- the table of a snapshot -/
  | view (n : Nat)

/-- What a call comes to. -/
inductive Answer where
  | registered
  | refused (e : DefinitionError)
  | tool (t? : Option Tool)
  | names (ns : List String)
  | descriptors (ds : List Json)
  | snapshot (n : Nat)
  | view (r? : Option Registry)

/-- Publishes a table. -/
def publish (s : SharedRegistry) (r : Registry) : SharedRegistry where
  current := r
  past := s.past ++ [s.current]

/-- The number under which the current table has been published. -/
def snapshot (s : SharedRegistry) : Nat := s.past.length

/-- The tables that have been published, the current one last. -/
def published (s : SharedRegistry) : List Registry := s.past ++ [s.current]

/-- The table that has been published under a number. -/
def table? (s : SharedRegistry) (n : Nat) : Option Registry := s.published[n]?

/-- Registers tools: the new table is published, or there is none and all stays as it is. -/
def register (s : SharedRegistry) (r : Registration) : SharedRegistry × Answer :=
  match r.tools.bind s.current.registerAll with
  | .ok table => (s.publish table, .registered)
  | .error e => (s, .refused e)

/-- The table after a call, and the answer. -/
def step (s : SharedRegistry) : Call → SharedRegistry × Answer
  | .register r => s.register r
  | .get name => (s, .tool (s.current.get? name))
  | .names => (s, .names s.current.names)
  | .descriptors => (s, .descriptors s.current.descriptors)
  | .snapshot => (s, .snapshot s.snapshot)
  | .view n => (s, .view (s.table? n))

/-- The table after calls, one after the other. -/
def run (s : SharedRegistry) (calls : List Call) : SharedRegistry :=
  calls.foldl (fun s c => (s.step c).1) s

end SharedRegistry
end AgentTool
