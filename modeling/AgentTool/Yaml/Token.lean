/-!
# Tokens of YAML

Blocks have no brackets of their own: their opening tokens are put where a
block's indentation starts, and `closeBlock` where it ends.
-/

namespace AgentTool
namespace Yaml

/-- A token. -/
inductive Token where
  /-- a directive that names a version of the language -/
  | version (major minor : Nat)
  /-- a directive that lets a handle stand for the start of a tag -/
  | tagHandle (handle start : String)
  | openDocument
  | closeDocument
  | openList
  | openMap
  | closeBlock
  | openFlowList
  | closeFlowList
  | openFlowMap
  | closeFlowMap
  /-- the dash in front of an item -/
  | entry
  /-- the comma between flow items -/
  | comma
  | key
  | value
  | anchor (name : String)
  | alias (name : String)
  /-- a handle and what follows it; a tag that is written in full has an empty handle -/
  | tag (handle rest : String)
  /-- a text, plain if it stands without quotes and not as a block -/
  | scalar (text : String) (plain : Bool)
  deriving DecidableEq, Repr

end Yaml
end AgentTool
