import AgentTool.Network

/-!
# Calling webhooks

A call makes attempts until one succeeds or the policy gives up.  Its reply must
be an object or an array; every error becomes a failure, with the body of the
reply if that is structured.  A call in full also tells how many attempts it took
and which status a failure came with; an invocation goes on without these.

| error | failure |
| --- | --- |
| the request cannot be written | invalid request |
| connection, body | transport |
| timeout | timeout |
| status | that status, with the body |
-/

namespace AgentTool

/-- Why a call failed, and the body that came with it. -/
structure CallFailure where
  failure : Failure
  body : Option Json := none
  deriving Inhabited

/-- What a call brings, and how many attempts it took. -/
structure CallReply where
  status : Nat
  body : Json
  attempts : Nat
  deriving Inhabited

/-- Why a call failed, with the status of the last reply if one came. -/
structure FailedCall extends CallFailure where
  status : Option Nat := none
  deriving Inhabited

/-- The object or the array that bytes are the JSON text of. -/
def structured? (bytes : List UInt8) : Option Json :=
  match (Text.ofUtf8? bytes).bind fun cs => Json.read? (String.ofList cs) with
  | some (.obj entries) => some (.obj entries)
  | some (.arr items) => some (.arr items)
  | _ => none

/-- The failure that an error of the last attempt is. -/
def AttemptError.failure : AttemptError → CallFailure
  | .unwritable _ => ⟨.invalidRequest, none⟩
  | .connection _ => ⟨.transport, none⟩
  | .body _ => ⟨.transport, none⟩
  | .timeout => ⟨.timeout, none⟩
  | .status code _ bytes => ⟨.badStatus code, structured? bytes⟩

/-- The status that an attempt shows. -/
def statusOf? : Except AttemptError (Nat × List UInt8) → Option Nat
  | .ok (status, _) => some status
  | .error (.status code _ _) => some code
  | .error _ => none

/-- What a call runs with. -/
structure CallSite where
  config : Config
  limits : Limits
  invocation : String
  webhook : Nat

namespace Run

/-- Reports an attempt and reads its reply. -/
def attemptReported (site : CallSite) (r : Request) (n : Nat) :
    Run (Except AttemptError (Nat × List UInt8)) := do
  let result ← attempt site.config site.limits r
  emit site.invocation (.webhookAttempt site.webhook (n + 1) (statusOf? result))
  return result

/-- The status and the body of a reply, which must be structured. -/
def readReply (status : Nat) (bytes : List UInt8) : Except CallFailure (Nat × Json) :=
  match structured? bytes with
  | some body => .ok (status, body)
  | none => .error ⟨.unparsableBody, none⟩

/-- What a call comes to by the way its last attempt ends, which is the one counted `n` from one. -/
def conclude (n : Nat) : Except AttemptError (Nat × List UInt8) → Except FailedCall CallReply
  | .ok (status, bytes) =>
    match readReply status bytes with
    | .ok (status, body) => .ok { status, body, attempts := n }
    | .error f => .error { f with status := some status }
  | .error e => .error { e.failure with status := statusOf? (.error e) }

/-- What an invocation goes on with after a call. -/
def kept : Except FailedCall CallReply → Except CallFailure (Nat × Json)
  | .ok reply => .ok (reply.status, reply.body)
  | .error failed => .error failed.toCallFailure

/-- The attempts of a call from the one counted `n` on, of which `left` may follow it. -/
def attemptsInFull (site : CallSite) (r : Request) (n : Nat) :
    (left : Nat) → Run (Except FailedCall CallReply)
  | 0 => do return conclude (n + 1) (← attemptReported site r n)
  | left + 1 => do
    match ← attemptReported site r n with
    | .ok reply => return conclude (n + 1) (.ok reply)
    | .error e =>
      match (RetryPolicy.ofConfig site.config).next? e n with
      | some delay =>
        wait site.limits .delay delay
        attemptsInFull site r (n + 1) left
      | none => return conclude (n + 1) (.error e)

/-- Calls a webhook: its reply, or why there is none. -/
def callInFull (site : CallSite) (w : Webhook) (scopes : Scopes) (R : Reading := .standard) :
    Run (Except FailedCall CallReply) :=
  match w.prepare scopes R with
  | .error f => return .error { failure := f }
  | .ok r => attemptsInFull site r 0 (RetryPolicy.ofConfig site.config).retries

/-- The attempts of a call, as far as an invocation goes on with them. -/
def attempts (site : CallSite) (r : Request) (n left : Nat) :
    Run (Except CallFailure (Nat × Json)) := do return kept (← attemptsInFull site r n left)

/-- Calls a webhook, as far as an invocation goes on with the call. -/
def call (site : CallSite) (w : Webhook) (scopes : Scopes) (R : Reading := .standard) :
    Run (Except CallFailure (Nat × Json)) := do return kept (← callInFull site w scopes R)

end Run
end AgentTool
