import AgentTool.Engine
import AgentTool.Proofs.ScopeLaws
import AgentTool.Proofs.Traces

/-!
# From runs to invocations

An invocation waits for its start and then runs in a restarted world; a caller who gives up
gets no result.  So what is known of every run is known of every invocation
(`Engine.invoke?_meets`).
-/

namespace AgentTool

/-- The webhooks of a tool; a tool that runs elsewhere has none. -/
def Tool.webhooks (t : Tool) : List Webhook :=
  match t.runtime with
  | .dataMap m => m.webhooks
  | .localWebhook _ => []

/-- A tool has a data map exactly if it runs one. -/
theorem Tool.map?_eq_some {t : Tool} {m : ReadyMap} :
    t.map? = some m ↔ t.runtime = .dataMap m := by
  unfold Tool.map?
  cases t.runtime <;> simp

/-- A webhook is skipped for arguments that lack one that it requires: absent, null or empty. -/
def Webhook.Skipped (h : Webhook) (args : Json) : Prop :=
  ∃ name ∈ h.requireArgs, isMissing (args.field? name) = true

instance (h : Webhook) (args : Json) : Decidable (h.Skipped args) :=
  inferInstanceAs (Decidable (∃ name ∈ h.requireArgs, isMissing (args.field? name) = true))

/-- The scopes that an invocation starts with. -/
def Invocation.scopes (i : Invocation) : Scopes :=
  Scopes.forInvocation i.boundArguments i.boundGlobal

/-- The arguments that a run of an invocation sees are those that the invocation binds. -/
theorem Engine.Frame.args_scopes {e : Engine} {limits : Limits} {id : String} {m : ReadyMap}
    {i : Invocation} : Frame.args ⟨e, limits, id, m, i.scopes⟩ = i.boundArguments := by
  rw [Frame.args, Invocation.scopes, Scopes.get?_forInvocation]
  rfl

/-- The world once an invocation has waited for its start. -/
def World.begun (w : World) : World := { w with elapsed := .ofNanos 0, waits := 1 }

namespace Engine

variable {e : Engine} {i : Invocation}

/-- An engine of one tool, under the usual settings. -/
def ofTool (t : Tool) : Engine where
  config := {}
  registry := { tools := [t] }

/-- The webhooks of the tool that an invocation names; none if there is no such tool. -/
def webhooksOf (e : Engine) (i : Invocation) : List Webhook :=
  ((e.registry.get? i.tool).map Tool.webhooks).getD []

/-- An invocation is its run in a restarted world, behind the wait for its start; a stop is reported
as a cancellation. -/
theorem invoke?_run (cancels : Nat → Wait → Bool) (id : String) (w : World) :
    (e.invoke? cancels id i).run w =
      match (Run.wait { cancels } .start (.ofNanos 0) >>= fun _ =>
          e.run { deadline := e.config.deadline, cancels } id i).exec w.restarted with
      | (.ok result, w') => (some result, w')
      | (.error _, w') => (none, { w' with events := w'.events ++ [⟨id, .cancelled i.tool⟩] }) := by
  unfold invoke?
  generalize (Run.wait { cancels } .start (.ofNanos 0) >>= fun _ =>
    e.run { deadline := e.config.deadline, cancels } id i : Run InvocationResult) = x
  have hx : StateT.run (ExceptT.run x) w.restarted = x.exec w.restarted := rfl
  simp only [StateT.run_bind, StateT.run_modify, pure_bind, hx]
  rcases x.exec w.restarted with ⟨s | result, w'⟩
  · rfl
  · rfl

/-- What a run of an invocation comes to, the invocation comes to; it has no result only if its run
is stopped or the caller gives up before. -/
theorem invoke?_meets {cancels : Nat → Wait → Bool} {id : String} {w : World}
    {Q : InvocationResult → World → Prop} {S : Prop} (hc : (∃ n what, cancels n what = true) → S)
    (h : (e.run { deadline := e.config.deadline, cancels } id i).Meets w.begun Q fun _ _ => S) :
    match (e.invoke? cancels id i).run w with
    | (some r, w') => Q r w'
    | (none, _) => S := by
  have hr : (Run.wait { cancels } .start (.ofNanos 0) >>= fun _ =>
      e.run { deadline := e.config.deadline, cancels } id i).Meets w.restarted Q fun _ _ => S := by
    refine Run.Meets.bind (Q := fun _ w₁ => w₁ = w.begun) (Run.Meets.wait rfl ?_) ?_
    · rintro (_ | _) ha
      · exact absurd rfl ha
      · exact hc ha
    · rintro _ _ rfl
      exact h
  rw [invoke?_run]
  unfold Run.Meets at hr
  split at hr
  · rename_i r w' he
    rw [he]
    exact hr
  · rename_i s w' he
    rw [he]
    exact hr

/-- For a caller who does not give up an invocation comes to the result that there is. -/
theorem invoke_run {id : String} {w w' : World} {r : InvocationResult}
    (h : (e.invoke? (fun _ _ => false) id i).run w = (some r, w')) :
    (e.invoke id i).run w = (r, w') := by
  unfold invoke
  simp only [StateT.run_bind, h]
  rfl

end Engine
end AgentTool
