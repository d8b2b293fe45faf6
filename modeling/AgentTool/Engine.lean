import AgentTool.Call
import AgentTool.Registry
import AgentTool.SetupError
import AgentTool.Tool.Compile
import AgentTool.Url.Proxy

/-!
# The engine

An invocation of a data map takes the first of these ways that leads to an
answer:

1. the first rule that matches;
2. without webhooks, the first rule with an output for no match;
3. the first webhook, in order, whose arguments are there, whose call succeeds
   and whose reply can be projected;
4. the fallback of the tool, which sees the body of the last failure;
5. the failure text of the settings.

An answer that is blank becomes the failure text, so there always is one.
-/

namespace AgentTool

/-- Settings and a table of tools. -/
structure Engine where
  config : Config
  registry : Registry
  deriving Inhabited

/-- The last failure on the way, and the body that came with it. -/
abbrev LastFailure := CallFailure

/-- The answer of an invocation and the way that led to it. -/
abbrev Answer := Rendered × Outcome

namespace Engine

/-- Why the settings do not give a transport, if they do not. -/
def transportFault? (c : Config) : Option SetupError :=
  match c.proxy with
  | some p =>
    if (Url.proxy? p).all fun u => !Sent.isWritableHost u.host then
      some (.transport s!"invalid proxy url '{p}'")
    else none
  | none => none

/-- Sets an engine up with tools and with documents, which are compiled. -/
def build (config : Config) (tools : List Tool) (documents : List Document) :
    Except SetupError Engine := do
  if Text.isBlankString config.failureText then
    throw (.configuration "failure_response must not be empty"
      { field := some "failure_response", source := some "engine_builder" })
  if let some e := transportFault? config then throw e
  if !Sent.isHeaderValue config.userAgent then throw (.transport "invalid user agent")
  let compiled ← (documents.mapM fun (d : Document) => d.compile none).mapError .definition
  let registry ← (Registry.registerAll .empty (tools ++ compiled)).mapError .definition
  return { config, registry }

/-- The engine with one more tool. -/
def register (e : Engine) (t : Tool) : Except SetupError Engine :=
  (e.registry.register t).mapError SetupError.definition |>.map fun r => { e with registry := r }

/-- The engine with one more tool, compiled from a document. -/
def registerDocument (e : Engine) (d : Document) : Except SetupError Engine := do
  e.register (← (d.compile none).mapError .definition)

/-- The failure text as an answer. -/
def failed (e : Engine) (reason : Failure) : Answer :=
  (.ofText e.config.failureText, .failed reason)

/-- The fallback of a tool, or the failure text if it has none. -/
def fallback (e : Engine) (m : ReadyMap) (scopes : Scopes) (last : LastFailure)
    (R : Reading := .standard) : Answer :=
  match m.fallback with
  | none => e.failed last.failure
  | some o =>
    let layer := match last.body with
      | some body => scopes.push.bindResponse body
      | none => scopes.push
    (o.render layer R, .fallback last.failure)

/-- The answer, or the failure text in its place if it is blank. -/
def presentable (e : Engine) (r : Rendered) : Rendered :=
  if r.isBlank then { r with response := e.config.failureText } else r

/-- What an invocation runs with. -/
structure Frame where
  engine : Engine
  limits : Limits
  id : String
  map : ReadyMap
  scopes : Scopes

/-- The arguments that a run sees. -/
def Frame.args (f : Frame) : Json := (f.scopes.get? Scopes.argsName).getD .null

/-- The answer of the rules, if they give one. -/
def runRules (f : Frame) (R : Reading := .standard) : Run (Option Answer) := do
  if f.map.matcher.isEmpty then return none
  match f.map.matcher.evaluate? f.scopes R with
  | some (index, ready) =>
    Run.emit f.id (.expressionMatched index)
    Run.enter f.id .matchedExpression
    Run.enter f.id .projected
    return some (ready.rule.output.render f.scopes R, .expression index)
  | none =>
    Run.emit f.id .expressionNoMatch
    if !f.map.webhooks.isEmpty then return none
    match f.map.matcher.default? with
    | none => return none
    | some (index, ready) =>
      match ready.rule.otherwise with
      | none => return none
      | some o =>
        Run.enter f.id .projected
        return some (o.render f.scopes R, .otherwise index)

/-- Calls a webhook and projects its reply. -/
def runWebhook (f : Frame) (index : Nat) (w : Webhook) (R : Reading := .standard) :
    Run (Except LastFailure Answer) := do
  match ← Run.call ⟨f.engine.config, f.limits, f.id, index⟩ w f.scopes R with
  | .error last => return .error last
  | .ok (status, body) =>
    return match w.project f.map.errorKeys body (f.scopes.push.bindResponse body) R with
      | .ok r => .ok (r, .webhook index status)
      | .error failure => .error ⟨failure, some body⟩

/-- The answer of the first webhook that gives one, from a position on.  `invoked` tells whether
one has been called, `last` is the last failure. -/
def runWebhooks (f : Frame) (index : Nat) (invoked : Bool) (last : LastFailure)
    (webhooks : List Webhook) (R : Reading := .standard) : Run (Except LastFailure Answer) :=
  match webhooks with
  | [] => return .error last
  | w :: ws => do
    if (w.missingArgument? f.args).isSome then
      Run.emit f.id (.webhookFailed index .missingArguments)
      runWebhooks f (index + 1) invoked ⟨.missingArguments, none⟩ ws R
    else
      if !invoked then Run.enter f.id .invokedWebhook
      match ← runWebhook f index w R with
      | .ok answer =>
        Run.enter f.id .projected
        return .ok answer
      | .error last =>
        Run.emit f.id (.webhookFailed index last.failure)
        runWebhooks f (index + 1) true last ws R

/-- The answer of a data map. -/
def runMap (f : Frame) (R : Reading := .standard) : Run Answer := do
  match ← runRules f R with
  | some answer => return answer
  | none =>
    match ← runWebhooks f 0 false ⟨.noMatch, none⟩ f.map.webhooks R with
    | .ok answer => return answer
    | .error last =>
      Run.enter f.id .projected
      return f.engine.fallback f.map f.scopes last R

/-- The answer of a data map, or of its fallback if the deadline passes before. -/
def runInTime (f : Frame) (R : Reading := .standard) : Run Answer := do
  tryCatch (runMap f R) fun
    | .cancelled => throw .cancelled
    | .deadline => do
      let answer := f.engine.fallback f.map f.scopes ⟨.timeout, none⟩ R
      Run.enter f.id .projected
      return answer

/-- The answer of a tool. -/
def answer (e : Engine) (limits : Limits) (id : String) (i : Invocation) : Run Answer := do
  match e.registry.get? i.tool with
  | none => return e.failed .unknownTool
  | some tool =>
    match tool.runtime with
    | .localWebhook _ => return e.failed .notExecutable
    | .dataMap map =>
      runInTime {
        engine := e
        limits
        id
        map
        scopes := Scopes.forInvocation i.boundArguments i.boundGlobal }

/-- An invocation from its start to its end. -/
def run (e : Engine) (limits : Limits) (id : String) (i : Invocation) : Run InvocationResult := do
  Run.emit id (.started i.tool)
  Run.enter id .received
  let (output, outcome) ← e.answer limits id i
  let output := e.presentable output
  Run.enter id .completed
  let millis := (← get).elapsed.millis
  Run.emit id (.completed i.tool outcome millis)
  return { id, tool := i.tool, output, outcome, millis }

/-- Invokes a tool.  There is a result unless the caller cancels, which may be before the start. -/
def invoke? (e : Engine) (cancels : Nat → Wait → Bool) (id : String) (i : Invocation) :
    StateM World (Option InvocationResult) := do
  modify World.restarted
  let run : Run InvocationResult := do
    Run.wait { cancels } .start (.ofNanos 0)
    e.run { deadline := e.config.deadline, cancels } id i
  match ← run.run with
  | .ok result => return some result
  | .error _ =>
    modify fun w => { w with events := w.events ++ [⟨id, .cancelled i.tool⟩] }
    return none

/-- Invokes a tool for a caller who does not cancel, so that there is a result. -/
def invoke (e : Engine) (id : String) (i : Invocation) : StateM World InvocationResult := do
  let (output, outcome) := e.failed .timeout
  return (← e.invoke? (fun _ _ => false) id i).getD
    { id, tool := i.tool, output, outcome, millis := 0 }

/-- Invokes tools one after the other, under identifiers by their positions. -/
def invokeAll (e : Engine) (id : Nat → String) (batch : List Invocation) :
    StateM World (List InvocationResult) :=
  batch.zipIdx.mapM fun (i, n) => e.invoke (id n) i

end Engine
end AgentTool
