import AgentTool.Entries
import AgentTool.Yaml.Lexer

/-!
# From tokens to nodes

A text holds at most one document, and a document is one node.  An alias stands
for the node that its anchor names, so the nodes that are read have no aliases;
what they would cost is bounded by two limits.

| limit | bound |
| --- | --- |
| nested collections, aliases followed | 128 |
| aliases followed on a walk through the whole document | 100 for each of its parts |

A part is a scalar, an alias, or one end of a collection.

Anchors are numbered by how many names are known when they appear.  A name that
is given anew gets a new number, which the next new name then shares with it;
the later of the two nodes has the number.
-/

namespace AgentTool
namespace Yaml

/-- A node of a document. -/
inductive Node where
  | scalar (tag : Option String) (text : String) (plain : Bool)
  | list (tag : Option String) (items : List Node)
  | map (tag : Option String) (entries : List (Node × Node))
  deriving Repr, Inhabited

/-- A node, how deep its collections nest, and how many aliases a walk through it follows. -/
structure Measured where
  node : Node
  depth : Nat := 0
  jumps : Nat := 0

/-- The state in which nodes are read. -/
structure Builder where
  tokens : List Token
  /-- what tag handles stand for -/
  handles : Entries String := []
  /-- the numbers of the anchors -/
  anchors : Entries Nat := []
  /-- the part at which each numbered node starts, the latest first -/
  starts : List (Nat × Nat) := []
  /-- the nodes that are complete, by the part at which they start -/
  complete : List (Nat × Measured) := []
  /-- the number of parts so far -/
  parts : Nat := 0

/-- Reads from the tokens that are left. -/
abbrev Build := StateT Builder (Except Error)

namespace Build

/-- A failure. -/
def fail {α : Type} (p : Problem) : Build α := throw ⟨p, none⟩

/-- The next token. -/
def peek : Build (Option Token) := do return (← get).tokens.head?

/-- Passes over a token. -/
def pop : Build Unit := modify fun b => { b with tokens := b.tokens.tail }

/-- Passes over a token if it is `t`. -/
def popIf (t : Token) : Build Bool := do
  if (← peek) == some t then do pop; return true else return false

/-- Whether one of some tokens is next. -/
def nextIn (ts : List Token) : Build Bool := do return (← peek).any ts.contains

/-- Counts a part; the answer is its number. -/
def part : Build Nat := do
  let n := (← get).parts
  modify fun b => { b with parts := n + 1 }
  return n

/-- A node that is left out. -/
def absent (tag : Option String) : Build Measured := do
  let _ ← part
  return { node := .scalar tag "" true }

/-- Puts two ends around the items of a collection. -/
def enclosed (make : List Measured → Node) (items : Build (List Measured)) : Build Measured := do
  let _ ← part
  let found ← items
  let _ ← part
  return {
    node := make found
    depth := 1 + (found.map Measured.depth).foldl max 0
    jumps := (found.map Measured.jumps).foldl (· + ·) 0 }

/-- A list of items. -/
def listOf (tag : Option String) (items : Build (List Measured)) : Build Measured :=
  enclosed (fun ms => .list tag (ms.map Measured.node)) items

/-- The entries that keys and values make in turn. -/
def paired : List Measured → List (Node × Node)
  | k :: v :: rest => (k.node, v.node) :: paired rest
  | _ => []

/-- A map of keys and values, which are read in turn. -/
def mapOf (tag : Option String) (entries : Build (List Measured)) : Build Measured :=
  enclosed (fun ms => .map tag (paired ms)) entries

/-- The node that an alias stands for.  It must be complete. -/
def target (name : String) : Build Measured := do
  let b ← get
  let start := (Entries.get? name b.anchors).bind fun n => b.starts.lookup n
  match start.bind fun n => b.complete.lookup n with
  | some m =>
    let _ ← part
    return { m with jumps := m.jumps + 1 }
  | none => fail .unknownAnchor

/-- Numbers the node that starts here. -/
def mark (name : String) : Build Unit := modify fun b =>
  let number := b.anchors.length
  { b with
    anchors := Entries.insert b.anchors name number
    starts := (number, b.parts) :: b.starts }

/-- What the handle and the rest of a tag name. -/
def tagName (handle rest : String) : Build String := do
  if handle.isEmpty then return rest
  let known := (← get).handles ++ [("!", "!"), ("!!", "tag:yaml.org,2002:")]
  match Entries.get? handle known with
  | some start => return start ++ rest
  | none => fail .unknownTagHandle

/-- A tag, if one is next. -/
def tag? : Build (Option String) := do
  match ← peek with
  | some (.tag handle rest) => pop; return some (← tagName handle rest)
  | _ => return none

/-- An anchor, if one is next. -/
def anchor? : Build (Option String) := do
  match ← peek with
  | some (.anchor name) => pop; return some name
  | _ => return none

/-- An anchor and a tag in either order. -/
def properties : Build (Option String × Option String) := do
  match ← anchor? with
  | some a => return (some a, ← tag?)
  | none =>
    match ← tag? with
    | some t => return (← anchor?, some t)
    | none => return (none, none)

/-- Reads with `read`, or leaves the node out if one of `stops` is next. -/
def orAbsent (stops : List Token) (read : Build Measured) : Build Measured := do
  if ← nextIn stops then absent none else read

/-- What may stand behind a node, by what surrounds it. -/
def blockStops : List Token := [.key, .value, .closeBlock]

mutual

/-- A node.  `block` tells whether it may be a block, `dashes` whether it may be a list of items
that are not indented. -/
def node (block dashes : Bool) : Nat → Build Measured
  | 0 => fail .tooDeep
  | fuel + 1 => do
    if let some (.alias name) ← peek then
      pop
      return ← target name
    let (anchor, tag) ← properties
    let start := (← get).parts
    if let some name := anchor then mark name
    let m ← content block dashes (anchor.isSome || tag.isSome) tag fuel
    if anchor.isSome then modify fun b => { b with complete := (start, m) :: b.complete }
    return m

/-- What follows the anchor and the tag of a node. -/
def content (block dashes mayBeAbsent : Bool) (tag : Option String) : Nat → Build Measured
  | 0 => fail .tooDeep
  | fuel + 1 => do
    match ← peek, block with
    | some (.scalar text plain), _ =>
      pop
      let _ ← part
      return { node := .scalar tag text plain }
    | some .openFlowList, _ => pop; listOf tag (flowItems true fuel)
    | some .openFlowMap, _ => pop; mapOf tag (flowEntries true fuel)
    | some .openList, true => pop; listOf tag (blockItems true fuel)
    | some .openMap, true => pop; mapOf tag (blockEntries fuel)
    | next, _ =>
      if dashes && next == some .entry then listOf tag (blockItems false fuel)
      else if mayBeAbsent then absent tag
      else fail .noContent

/-- The items of a block list; one that is not indented ends where something else follows. -/
def blockItems (indented : Bool) : Nat → Build (List Measured)
  | 0 => fail .tooDeep
  | fuel + 1 => do
    if ← popIf .entry then
      let stops := if indented then [Token.closeBlock] else blockStops
      let m ← orAbsent (.entry :: stops) (node true false fuel)
      return m :: (← blockItems indented fuel)
    else if !indented then return []
    else if ← popIf .closeBlock then return []
    else fail .noEntry

/-- The keys and values of a block map. -/
def blockEntries : Nat → Build (List Measured)
  | 0 => fail .tooDeep
  | fuel + 1 => do
    if ← popIf .key then
      let k ← orAbsent blockStops (node true true fuel)
      let v ← if ← popIf .value then orAbsent blockStops (node true true fuel) else absent none
      return k :: v :: (← blockEntries fuel)
    else if ← popIf .closeBlock then return []
    else fail .noKey

/-- The value behind a flow key, if there is one. -/
def flowValue (close : Token) : Nat → Build Measured
  | 0 => fail .tooDeep
  | fuel + 1 => do
    if ← popIf .value then orAbsent [.comma, close] (node false false fuel) else absent none

/-- The items of a flow list.  A key among them makes a map of one entry; where that key is left
out, the token in its place is passed over. -/
def flowItems (first : Bool) : Nat → Build (List Measured)
  | 0 => fail .tooDeep
  | fuel + 1 => do
    if ← popIf .closeFlowList then return []
    if !first then
      if !(← popIf .comma) then fail .noFlowSeparator
      if ← popIf .closeFlowList then return []
    let m ←
      if ← popIf .key then mapOf none do
        let k ←
          if ← nextIn [.value, .comma, .closeFlowList] then do pop; absent none
          else node false false fuel
        return [k, ← flowValue .closeFlowList fuel]
      else node false false fuel
    return m :: (← flowItems false fuel)

/-- The keys and values of a flow map. -/
def flowEntries (first : Bool) : Nat → Build (List Measured)
  | 0 => fail .tooDeep
  | fuel + 1 => do
    if ← popIf .closeFlowMap then return []
    if !first then
      if !(← popIf .comma) then fail .noFlowSeparator
      if ← popIf .closeFlowMap then return []
    let (k, v) ←
      if ← popIf .key then do
        let k ← orAbsent [.value, .comma, .closeFlowMap] (node false false fuel)
        pure (k, ← flowValue .closeFlowMap fuel)
      else do
        let k ← node false false fuel
        pure (k, ← absent none)
    return k :: v :: (← flowEntries false fuel)

end

/-- The directives in front of a document; `versions` counts those that name a version. -/
def directives (versions : Nat) : Nat → Build Unit
  | 0 => return
  | fuel + 1 => do
    match ← peek with
    | some (.version major minor) =>
      if versions > 0 then fail .repeatedDirective
      if major != 1 || minor != 1 && minor != 2 then fail .otherVersion
      pop
      directives (versions + 1) fuel
    | some (.tagHandle handle start) =>
      if (Entries.get? handle (← get).handles).isSome then fail .repeatedDirective
      modify fun b => { b with handles := b.handles ++ [(handle, start)] }
      pop
      directives versions fuel
    | _ => return

/-- Whether a directive, a mark of a document or the end of the text is next. -/
def atDocumentEnd : Build Bool := do
  match ← peek with
  | none | some (.version ..) | some (.tagHandle ..) | some .openDocument | some .closeDocument =>
    return true
  | _ => return false

/-- Passes over the marks that end a document. -/
def closers : Nat → Build Unit
  | 0 => return
  | fuel + 1 => do if ← popIf .closeDocument then closers fuel

/-- The one document of a text; nothing if there is none. -/
def document (fuel : Nat) : Build (Option Measured) := do
  if (← peek).isNone then return none
  let before := (← get).tokens.length
  directives 0 fuel
  let explicit ← popIf .openDocument
  if !explicit && (← get).tokens.length < before then fail .noDocumentStart
  let m ← if explicit && (← atDocumentEnd) then absent none else node true false fuel
  closers fuel
  if (← peek).isSome then fail .moreDocuments
  return some m

end Build

/-- The node that a text holds; an empty text holds an absent node. -/
def Node.ofText? (text : String) : Except Error Node := do
  let ts ← tokens text
  let (found, b) ← (Build.document (4 * ts.length + 4)).run { tokens := ts }
  match found with
  | none => return .scalar none "" true
  | some m =>
    if m.depth > 128 then .error ⟨.tooDeep, none⟩
    else if m.jumps > 100 * b.parts then .error ⟨.tooManyAliases, none⟩
    else return m.node

end Yaml
end AgentTool
