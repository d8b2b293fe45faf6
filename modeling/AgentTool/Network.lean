import AgentTool.Event
import AgentTool.Sent

/-!
# The world around an invocation

The network is a value: which addresses it reaches, and the replies that it has
in store.  Each attempt that reaches its address takes the next reply; when none
is left the connection is closed.

| reply | the attempt ends |
| --- | --- |
| an answer with a status from 200 to 299 | with its body |
| an answer with another status | with that status |
| an answer whose body is cut short | with a body error |
| closed, or an address out of reach | with a connection error |
| silent, or too slow | with a timeout, after that time |
| sent on to an address that cannot be requested | as a request that cannot be written |

The client follows redirects by itself, within the attempt, so that a reply is
what it brings back in the end; what is sent is the request that it starts from.

An invocation waits for each attempt and between attempts.  A deadline or the
caller may end it at any wait; what it has sent and reported until then stays.
A wait that the deadline ends lasts until then.
-/

namespace AgentTool

/-- A redirect that is not followed: its address is not of the web, or does not fit a request
line. -/
inductive Detour where
  | foreign (location : String)
  | unwritable (location : String)
  deriving DecidableEq, Repr, Inhabited

/-- What is said of a redirect that is not followed. -/
def Detour.message : Detour → String
  | foreign location => s!"builder error for url ({location}): URL scheme is not allowed"
  | unwritable location => s!"builder error for url ({location}): Parsed Url is not a valid Uri"

/-- What an attempt meets, behind all redirects that are followed. -/
inductive Reply where
  | answer (status : Nat) (retryAfter : Option String) (body : List UInt8) (whole : Bool)
  | closed
  | silent
  | astray (detour : Detour)
  deriving DecidableEq, Repr, Inhabited

namespace Reply

/-- Whether an answer to a method has a body. -/
def hasBody (method : String) (status : Nat) : Bool :=
  method != "HEAD" && status != 204 && status != 304

/-- The delay that a header asks for, in seconds. -/
def askedDelay? (header : String) : Option Duration :=
  if header.toList.all fun c => c == '\t' || 32 ≤ c.toNat && c.toNat < 127 then
    (Text.natural? UInt64.size header).map Duration.ofSeconds
  else none

/-- How an attempt ends: a status and a body, or an error. -/
def result (method : String) : Reply → Except AttemptError (Nat × List UInt8)
  | closed => .error (.connection "connection closed")
  | silent => .error .timeout
  | astray detour => .error (.unwritable detour.message)
  | answer status retryAfter body whole =>
    let body := if hasBody method status then body else []
    if hasBody method status && !whole then .error (.body "the body ends too early")
    else if 200 ≤ status ∧ status < 300 then .ok (status, body)
    else .error (.status status (retryAfter.bind askedDelay?) body)

end Reply

/-- A reply and the time that it takes. -/
structure Arrival where
  reply : Reply
  time : Duration := .ofNanos 0
  deriving DecidableEq, Repr, Inhabited

/-- What is met by an attempt that waits for a time at most: silence, if the reply takes longer. -/
def Arrival.within (a : Arrival) (bound : Duration) : Arrival :=
  if a.reply ≠ .silent ∧ a.time ≤ bound then a else ⟨.silent, bound⟩

/-- The addresses in reach and the replies in store. -/
structure Network where
  reaches : Url → Bool
  replies : List Arrival := []

/-- The network without any address. -/
def Network.nowhere : Network := { reaches := fun _ => false }

/-- What an invocation changes. -/
structure World where
  network : Network
  sent : List Sent := []
  events : List Event := []
  /-- the time since the invocation started -/
  elapsed : Duration := .ofNanos 0
  /-- the number of waits so far -/
  waits : Nat := 0

/-- The world when an invocation starts. -/
def World.restarted (w : World) : World := { w with elapsed := .ofNanos 0, waits := 0 }

/-- What an invocation waits for. -/
inductive Wait where
  | start
  | reply (r : Reply)
  | delay
  deriving DecidableEq, Repr

/-- What ends an invocation early. -/
inductive Stop where
  | deadline | cancelled
  deriving DecidableEq, Repr

/-- What bounds an invocation. -/
structure Limits where
  deadline : Option Duration := none
  /-- whether the caller gives up during a wait, by its number and what it is for -/
  cancels : Nat → Wait → Bool := fun _ _ => false

/-- The time at which a wait is over that would end at `time`: the deadline cuts it off. -/
def Limits.cutOff (l : Limits) (time : Duration) : Duration := l.deadline.elim time (min time)

/-- A run of an invocation in the world. -/
abbrev Run := ExceptT Stop (StateM World)

namespace Run

/-- Reports an event. -/
def emit (id : String) (fact : Event.Fact) : Run Unit :=
  modify fun w => { w with events := w.events ++ [⟨id, fact⟩] }

/-- Reports a new state. -/
def enter (id : String) (state : RunState) : Run Unit := emit id (.stateChanged state)

/-- Waits for a time. -/
def wait (limits : Limits) (what : Wait) (time : Duration) : Run Unit := do
  let w ← get
  let after := w.elapsed.plus time
  set { w with waits := w.waits + 1, elapsed := limits.cutOff after }
  if limits.cancels w.waits what then throw .cancelled
  if limits.deadline.any fun bound => decide (bound ≤ after) then throw .deadline

/-- Sends a request and takes the reply. -/
def exchange (url : Url) (s : Sent) : Run Arrival := do
  let w ← get
  if w.network.reaches url then
    set { w with
      sent := w.sent ++ [s]
      network := { w.network with replies := w.network.replies.tail } }
    return w.network.replies.head?.getD { reply := .closed }
  else return { reply := .closed }

/-- One attempt at a request. -/
def attempt (config : Config) (limits : Limits) (r : Request) :
    Run (Except AttemptError (Nat × List UInt8)) := do
  match Sent.ofRequest config.userAgent r with
  | .error e => return .error e
  | .ok s =>
    let met := (← exchange r.url s).within config.timeout
    wait limits (.reply met.reply) met.time
    return met.reply.result r.method

end Run
end AgentTool
