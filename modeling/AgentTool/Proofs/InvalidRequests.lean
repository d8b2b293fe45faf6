import AgentTool.Proofs.CompiledMaps
import AgentTool.Proofs.Orchestration

/-!
# Where invalid requests come from

The documents are checked when they are compiled, so that only values and the
network can make a request invalid when a tool runs:

| cause | decided by |
| --- | --- |
| a value would make a dot segment of the path | `Template.expandUrl` |
| the expanded address is not one of the web | `Url.parse?` |
| an expanded header has a control character | `Sent.isHeaderValue` |
| the address does not fit a request line | `Request.IsUnwritable` |
| it is sent on to an address that cannot be requested | `Network.LeadsAstray` |
-/

namespace AgentTool

namespace Run

open Reporting

variable {n : Network} {P : Event.Fact → Prop} {r : Request}

end Run

namespace Engine

variable {f : Frame} {n : Network} {declared : List String}

section Explains

variable {hs : List Webhook} {scopes : Scopes} {n : Network}

end Explains

end Engine
end AgentTool
