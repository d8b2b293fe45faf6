import AgentTool.Config

/-!
# Attempts and retries

An attempt that failed is made again if that may help: after a connection
failure, a timeout, or a status that the policy names.  The delay doubles with
each attempt up to the longest one; a delay that the reply asks for takes its
place under the same bound.
-/

namespace AgentTool

/-- Why one attempt failed. -/
inductive AttemptError where
  /-- the request, or one that it is sent on to, cannot be written -/
  | unwritable (reason : String)
  | connection (reason : String)
  | timeout
  /-- the reply has no success status -/
  | status (code : Nat) (retryAfter : Option Duration) (body : List UInt8)
  /-- the body of the reply ends too early -/
  | body (reason : String)
  deriving DecidableEq, Repr

/-- The text of an error. -/
def AttemptError.message : AttemptError → String
  | unwritable reason => s!"invalid request: {reason}"
  | connection reason => s!"connection failed: {reason}"
  | timeout => "request timed out"
  | status code _ _ => s!"upstream returned HTTP {code}"
  | body reason => s!"failed to read response body: {reason}"

/-- When another attempt is made, and after which delay. -/
structure RetryPolicy where
  /-- the attempts after the first -/
  retries : Nat
  shortest : Duration
  longest : Duration
  statuses : List Nat
  deriving Inhabited

namespace RetryPolicy

/-- The policy of settings, with their bounds put right. -/
def ofConfig (c : Config) : RetryPolicy where
  retries := min c.retries Config.retryLimit
  shortest := c.shortestDelay
  longest := max c.longestDelay c.shortestDelay
  statuses := c.retryStatuses

/-- No attempt after the first. -/
def never : RetryPolicy := { ofConfig {} with retries := 0 }

/-- Whether a status is worth another attempt. -/
def retriesStatus (p : RetryPolicy) (code : Nat) : Bool := p.statuses.contains code

/-- The factor of the delay after an attempt, within a word of 32 bits. -/
def factor (attempt : Nat) : Nat := if attempt < 32 then Nat.pow 2 attempt else UInt32.size - 1

/-- The delay after an attempt, counted from zero. -/
def delay (p : RetryPolicy) (attempt : Nat) (asked : Option Duration) : Duration :=
  min (asked.getD (p.shortest.times (factor attempt))) p.longest

/-- Whether an error may go away, and the delay that it asks for. -/
def retryable (p : RetryPolicy) : AttemptError → Bool × Option Duration
  | .connection _ | .timeout => (true, none)
  | .status code asked _ => (p.retriesStatus code, asked)
  | .unwritable _ | .body _ => (false, none)

/-- The delay before another attempt, if there is one after the attempt counted from zero. -/
def next? (p : RetryPolicy) (error : AttemptError) (attempt : Nat) : Option Duration :=
  let (worth, asked) := p.retryable error
  if worth ∧ attempt < p.retries then some (p.delay attempt asked) else none

end RetryPolicy
end AgentTool
