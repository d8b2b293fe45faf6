import AgentTool.Proofs.StrictTemplates
import AgentTool.Proofs.WebhookTraces

/-!
# The trace of an invocation

An invocation that comes to a result has told the states that it went through, in the order of the
state machine, and what it told agrees with its outcome (`Engine.IsTraceOf`).

| outcome | states |
| --- | --- |
| the tool is unknown or runs elsewhere | received, completed |
| a rule matched | received, matched, projected, completed |
| any other, if a webhook had its arguments | received, invoked, projected, completed |
| any other, if none had them | received, projected, completed |

The deadline may pass while a webhook is called: then this webhook has not failed, and those after
it are not reached.
-/

namespace AgentTool

namespace Outcome

/-- The states on the way to an outcome.  `tried` tells whether a webhook had its arguments. -/
def states (tried : Bool) : Outcome → List RunState
  | .expression _ => [.received, .matchedExpression, .projected, .completed]
  | .failed .unknownTool | .failed .notExecutable => [.received, .completed]
  | _ =>
    if tried then [.received, .invokedWebhook, .projected, .completed]
    else [.received, .projected, .completed]

/-- On the way to an outcome with `all` webhooks the first `n` have failed: none for a rule, those
before the one that answers, and otherwise all, unless the deadline has passed before. -/
def FailsBefore (all n : Nat) : Outcome → Prop
  | .expression _ | .otherwise _ => n = 0
  | .webhook index _ => n = index ∧ index < all
  | .fallback reason | .failed reason => n = all ∨ n < all ∧ reason = .timeout

end Outcome

namespace Engine

/-- The trace of an invocation of a tool with the webhooks `hs` that comes to an outcome. -/
structure IsTraceOf (hs : List Webhook) (args : Json) (tool : String) (outcome : Outcome)
    (t : List Event.Fact) : Prop where
  /-- it begins with the start and ends with the outcome, and nothing in between is either -/
  bounds : ∃ between millis, t = .started tool :: between ++ [.completed tool outcome millis] ∧
    ∀ fact ∈ between, fact.isBound = false
  states : t.filterMap Event.Fact.state? = outcome.states (decide (∃ h ∈ hs, ¬h.Skipped args))
  /-- attempts are made only between the states of calling webhooks and of a projection -/
  attempts : ∀ before after k n status, t = before ++ .webhookAttempt k n status :: after →
    .stateChanged .invokedWebhook ∈ before ∧ .stateChanged .projected ∈ after
  /-- what is told of a webhook is told before anything of the next -/
  ordered : (t.filterMap Event.Fact.webhook?).Pairwise (· ≤ ·)
  matched : ∀ rule, .expressionMatched rule ∈ t ↔ outcome = .expression rule
  /-- each of the webhooks that have failed has failed once, and only one more may be called -/
  failures : ∃ n, outcome.FailsBefore hs.length n ∧
    t.filterMap Event.Fact.failed? = List.range n ∧
    ∀ k ∈ t.filterMap Event.Fact.webhook?, k ≤ n ∧ k < hs.length

/-! ## The ways to an outcome -/

section Ways

variable {hs : List Webhook} {args : Json} {tool : String} {outcome : Outcome} {millis : Nat}
  {u : List Event.Fact}

/-- What an invocation tells whose answer tells `u`. -/
def framed (tool : String) (outcome : Outcome) (millis : Nat) (u : List Event.Fact) :
    List Event.Fact :=
  .started tool :: .stateChanged .received ::
    (u ++ [.stateChanged .completed, .completed tool outcome millis])

/-- A framed trace begins with the start and ends with the outcome. -/
theorem framed_bounds (hu : ∀ fact ∈ u, fact.isBound = false) :
    ∃ between n, framed tool outcome millis u =
      .started tool :: between ++ [.completed tool outcome n] ∧
        ∀ fact ∈ between, fact.isBound = false := by
  refine ⟨.stateChanged .received :: (u ++ [.stateChanged .completed]), millis, ?_, ?_⟩
  · simp [framed]
  · simpa [Event.Fact.isBound, or_imp, forall_and] using hu

/-- A framed trace has two states more, the first and the last. -/
theorem framed_states : (framed tool outcome millis u).filterMap Event.Fact.state? =
    .received :: (u.filterMap Event.Fact.state? ++ [.completed]) := by
  simp [framed, List.filterMap_cons, Event.Fact.state?]

/-- A frame is about no webhook. -/
theorem framed_webhooks : (framed tool outcome millis u).filterMap Event.Fact.webhook? =
    u.filterMap Event.Fact.webhook? := by
  simp [framed, List.filterMap_cons, Event.Fact.webhook?]

/-- A frame tells of no failure. -/
theorem framed_failures : (framed tool outcome millis u).filterMap Event.Fact.failed? =
    u.filterMap Event.Fact.failed? := by
  simp [framed, List.filterMap_cons, Event.Fact.failed?]

/-- A frame tells of no match. -/
theorem matched_mem_framed {rule : Nat} :
    .expressionMatched rule ∈ framed tool outcome millis u ↔ .expressionMatched rule ∈ u := by
  simp [framed]

/-- No webhook is called for an answer that tells of none. -/
theorem isTraceOf_silent (hu : ∀ fact ∈ u, fact.isBound = false)
    (hw : ∀ fact ∈ u, fact.webhook? = none)
    (hst : .received :: (u.filterMap Event.Fact.state? ++ [.completed]) =
      outcome.states (decide (∃ h ∈ hs, ¬h.Skipped args)))
    (hm : ∀ rule, .expressionMatched rule ∈ u ↔ outcome = .expression rule)
    (hf : outcome.FailsBefore hs.length 0) :
    IsTraceOf hs args tool outcome (framed tool outcome millis u) := by
  have hnone : (framed tool outcome millis u).filterMap Event.Fact.webhook? = [] :=
    framed_webhooks.trans (List.filterMap_eq_nil_iff.2 hw)
  refine ⟨framed_bounds hu, framed_states.trans hst, ?attempts, ?ordered,
    fun rule => matched_mem_framed.trans (hm rule), 0, hf, ?failures, ?webhooks⟩
  case attempts =>
    rintro before after k n status h
    rw [h, List.filterMap_append] at hnone
    cases (List.append_eq_nil_iff.1 hnone).2
  case ordered =>
    rw [hnone]
    exact .nil
  case failures =>
    rw [framed_failures]
    exact List.filterMap_eq_nil_iff.2 fun fact h => Event.Fact.failed?_eq_none (hw fact h)
  case webhooks =>
    rw [hnone]
    nofun

/-- What webhooks that are tried come to is not said by a rule and is no refusal. -/
theorem Frame.EndsAt.states {f : Frame} {stop : Nat} {tried : Bool} (h : f.EndsAt stop outcome) :
    outcome.states tried = if tried then [.received, .invokedWebhook, .projected, .completed]
      else [.received, .projected, .completed] := by
  cases outcome with
  | expression => cases h
  | otherwise => cases h
  | webhook => rfl
  | fallback => rfl
  | failed reason =>
    obtain ⟨hr, -⟩ := h
    cases reason with
    | unknownTool => cases hr
    | notExecutable => cases hr
    | _ => rfl

/-- An outcome that ends at a webhook has the failures before it. -/
theorem Frame.EndsAt.failsBefore {f : Frame} {stop : Nat} (h : f.EndsAt stop outcome) :
    outcome.FailsBefore f.map.webhooks.length stop := by
  cases outcome with
  | expression => cases h
  | otherwise => cases h
  | webhook => exact h
  | fallback => exact h.2
  | failed => exact h.2

/-- What is told around webhooks is that no rule matched, and a projection. -/
theorem IsLead.filterMap_tried {β : Type} {lead t : List Event.Fact} (hl : IsLead lead)
    (p : Event.Fact → Option β) (hp : p .expressionNoMatch = none) :
    (lead ++ t ++ [Event.Fact.stateChanged .projected]).filterMap p =
      t.filterMap p ++ [Event.Fact.stateChanged .projected].filterMap p := by
  have hnone : lead.filterMap p = [] := List.filterMap_eq_nil_iff.2 fun fact hf => by
    rw [hl.eq_expressionNoMatch fact hf, hp]
  rw [List.filterMap_append, List.filterMap_append, hnone, List.nil_append]

/-- The trace of an answer that the webhooks lead to. -/
theorem isTraceOf_tried {f : Frame} {stop : Nat} {lead t : List Event.Fact} (hl : IsLead lead)
    (ht : f.Tries 0 false f.map.webhooks stop t) (he : f.EndsAt stop outcome) :
    IsTraceOf f.map.webhooks f.args tool outcome
      (framed tool outcome millis (lead ++ t ++ [.stateChanged .projected])) := by
  have hfacts : ∀ fact ∈ lead ++ t ++ [.stateChanged .projected],
      fact = .expressionNoMatch ∨ (∃ s, fact = .stateChanged s) ∨ fact.webhook?.isSome = true := by
    intro fact hf
    rw [List.mem_append, List.mem_append, List.mem_singleton] at hf
    rcases hf with (hf | hf) | rfl
    · exact .inl (hl.eq_expressionNoMatch fact hf)
    · exact .inr ((ht.facts fact hf).imp_left fun h => ⟨_, h⟩)
    · exact .inr (.inl ⟨_, rfl⟩)
  refine ⟨framed_bounds fun fact h => ?bounds, ?states, ?attempts, ?ordered, fun rule => ?matched,
    stop, he.failsBefore, ?failures, ?webhooks⟩
  case bounds =>
    rcases hfacts fact h with rfl | ⟨s, rfl⟩ | hw
    · rfl
    · rfl
    · cases fact with
      | webhookAttempt => rfl
      | webhookFailed => rfl
      | _ => cases hw
  case states =>
    rw [framed_states, he.states, hl.filterMap_tried Event.Fact.state? rfl, ht.states]
    by_cases hx : ∃ h ∈ f.map.webhooks, ¬h.Skipped f.args
    · simp [hx, entering, Event.Fact.state?]
    · simp [hx, Event.Fact.state?]
  case attempts =>
    -- around the webhooks no attempt is told, so it stands among what they tell
    intro before after k n status h
    have hsplit : (.started tool :: .stateChanged .received :: lead) ++ (t ++
        [.stateChanged .projected, .stateChanged .completed, .completed tool outcome millis]) =
          before ++ .webhookAttempt k n status :: after := by
      simpa [framed] using h
    have hlead : Event.Fact.webhookAttempt k n status ∉ lead := fun hm => by
      cases hl.eq_expressionNoMatch _ hm
    obtain ⟨b, rfl, hb⟩ := append_eq_append_cons_left (by simpa using hlead) hsplit
    obtain ⟨c, hc, rfl⟩ := append_eq_append_cons_right (by simp) hb
    have hcalled := (ht.attempts hc).resolve_left (by decide)
    exact ⟨List.mem_append_right _ hcalled, by simp⟩
  case ordered =>
    rw [framed_webhooks, hl.filterMap_tried Event.Fact.webhook? rfl]
    simpa [List.filterMap_cons, Event.Fact.webhook?] using ht.ordered
  case matched =>
    -- neither side ever holds: webhooks are only tried when no rule has matched
    rw [matched_mem_framed]
    refine ⟨fun h => ?_, fun h => ?_⟩
    · rcases hfacts _ h with h | ⟨s, h⟩ | h
      · cases h
      · cases h
      · cases h
    · subst h
      cases he
  case failures =>
    rw [framed_failures, hl.filterMap_tried Event.Fact.failed? rfl, ht.failures]
    simp [List.filterMap_cons, Event.Fact.failed?, List.range_eq_range']
  case webhooks =>
    rw [framed_webhooks, hl.filterMap_tried Event.Fact.webhook? rfl]
    intro k hk
    have := ht.webhooks k (by simpa [List.filterMap_cons, Event.Fact.webhook?] using hk)
    omega

/-- The trace of a data map is that of an answer. -/
theorem Frame.Traces.isTraceOf {f : Frame} (h : f.Traces outcome u) :
    IsTraceOf f.map.webhooks f.args tool outcome (framed tool outcome millis u) := by
  cases h with
  | @expression rule =>
    refine isTraceOf_silent (by simp [Event.Fact.isBound]) (by simp [Event.Fact.webhook?]) rfl
      (fun k => ?_) rfl
    simp [eq_comm]
  | otherwise hw =>
    refine isTraceOf_silent (by decide) (by decide) ?_ (by simp) rfl
    rw [hw]
    rfl
  | tried hl ht he => exact isTraceOf_tried hl ht he

/-- The trace of an answer without a run: the tool is unknown or runs elsewhere. -/
theorem isTraceOf_refused {reason : Failure} (hr : reason.isRefusal = true) :
    IsTraceOf [] args tool (.failed reason) (framed tool (.failed reason) millis []) := by
  refine isTraceOf_silent nofun nofun ?_ (by simp) (.inl rfl)
  cases reason with
  | unknownTool => rfl
  | notExecutable => rfl
  | _ => cases hr

end Ways

/-! ## Runs and invocations -/

section Runs

variable {e : Engine} {i : Invocation} {id : String}

/-- An answer tells what stands between the bounds of a trace with its outcome. -/
theorem answer_tells {limits : Limits} :
    Run.Tells id (e.answer limits id i)
      (fun a u => ∀ millis, IsTraceOf (e.webhooksOf i) i.boundArguments i.tool a.2
        (framed i.tool a.2 millis u))
      fun s _ => s = .cancelled ∧ limits.Allow .cancelled := by
  unfold answer webhooksOf
  cases ht : e.registry.get? i.tool with
  | none => exact Run.Tells.pure fun _ => isTraceOf_refused rfl
  | some tool =>
    cases hr : tool.runtime with
    | localWebhook url =>
      simp only [hr, Option.map_some, Option.getD_some, Tool.webhooks]
      exact Run.Tells.pure fun _ => isTraceOf_refused rfl
    | dataMap m =>
      simp only [hr, Option.map_some, Option.getD_some, Tool.webhooks]
      have hargs : Frame.args ⟨e, limits, id, m, i.scopes⟩ = i.boundArguments := Frame.args_scopes
      rw [← hargs]
      exact runInTime_tells.imp (fun _ _ h _ => h.isTraceOf) fun _ _ h => h

/-- A run tells the trace of its outcome.  Only the caller stops it. -/
theorem run_tells {limits : Limits} :
    Run.Tells id (e.run limits id i)
      (fun r t => r.id = id ∧ r.tool = i.tool ∧
        IsTraceOf (e.webhooksOf i) i.boundArguments i.tool r.outcome t)
      fun s _ => s = .cancelled ∧ limits.Allow .cancelled := by
  unfold run
  refine Run.Tells.emit_bind (Run.Tells.enter_bind ?_)
  refine Run.Tells.bind answer_tells ?_
  rintro ⟨output, outcome⟩ u hu
  refine Run.Tells.enter_bind ?_
  refine Run.Tells.bind (Q := fun _ t => t = []) (Run.Tells.get fun _ => rfl) ?_
  rintro w _ rfl
  exact Run.Tells.emit_bind (Run.Tells.pure ⟨rfl, rfl, hu _⟩)

/-- An invocation with a result has told the trace of its outcome, and there is one unless the
caller gives up. -/
theorem invoke?_tells (e : Engine) (i : Invocation) (id : String) (cancels : Nat → Wait → Bool)
    (w : World) :
    match (e.invoke? cancels id i).run w with
    | (some r, w') => r.id = id ∧ r.tool = i.tool ∧ ∃ t, Run.Told id t w w' ∧
        IsTraceOf (e.webhooksOf i) i.boundArguments i.tool r.outcome t
    | (none, _) => ∃ n what, cancels n what = true := by
  refine invoke?_meets (fun h => h) ((run_tells w.begun).imp ?_ ?_)
  · rintro r w' ⟨t, ht, hid, htool, h⟩
    exact ⟨hid, htool, t, ht, h⟩
  · rintro _ _ ⟨_, _, _, ha⟩
    exact ha

/-- For a caller who does not give up there is a result. -/
theorem exists_invoke?_eq_some (e : Engine) (i : Invocation) (id : String) (w : World) :
    ∃ r w', (e.invoke? (fun _ _ => false) id i).run w = (some r, w') := by
  have ht := invoke?_tells e i id (fun _ _ => false) w
  split at ht
  · rename_i r w' he
    exact ⟨r, w', he⟩
  · obtain ⟨_, _, hc⟩ := ht
    cases hc

/-- **What an invocation with a result has told is the trace of its outcome**, all of it under its
identifier; and for a caller who does not give up there is a result. -/
theorem invoke_isTraceOf (e : Engine) (i : Invocation) (id : String) (w : World) :
    (∃ r w', (e.invoke? (fun _ _ => false) id i).run w = (some r, w')) ∧
    ∀ cancels r w', (e.invoke? cancels id i).run w = (some r, w') →
      r.id = id ∧ r.tool = i.tool ∧ ∃ t, w'.events = w.events ++ t.map (Event.mk id) ∧
        IsTraceOf (e.webhooksOf i) i.boundArguments i.tool r.outcome t := by
  refine ⟨exists_invoke?_eq_some e i id w, fun cancels r w' he => ?_⟩
  have ht := invoke?_tells e i id cancels w
  rw [he] at ht
  exact ht

end Runs

/-- A document with a webhook that requires an argument and one that does not. -/
def keyedLookup : Document where
  name := "lookup"
  parameters := { properties := [("key", { type := .string })] }
  dataMap := some {
    webhooks := [
      { url := "http://a.example/x", requireArgs := ["key"], output := some { response := "found" } },
      { url := "http://b.example/x", output := some { response := "found" } }]
    fallback := some { response := "not found" } }

/-- Without the argument and without a network the first webhook is skipped, and the second is
called in vain. -/
theorem keyedLookup_isTraceOf :
    ∃ tool, keyedLookup.compile none = .ok tool ∧
      IsTraceOf ((ofTool tool).webhooksOf { tool := "lookup" }) (.obj []) "lookup"
        (.fallback .transport)
        [.started "lookup", .stateChanged .received, .webhookFailed 0 .missingArguments,
          .stateChanged .invokedWebhook, .webhookAttempt 1 1 none, .webhookAttempt 1 2 none,
          .webhookFailed 1 .transport, .stateChanged .projected, .stateChanged .completed,
          .completed "lookup" (.fallback .transport) 200] := by
  have hrun : ((keyedLookup.compile none).toOption.map fun t =>
      let (r?, w) := ((ofTool t).invoke? (fun _ _ => false) "" { tool := "lookup" }).run
        { network := .nowhere }
      (r?.map (·.outcome), w.events.map (·.fact))) =
      some (some (.fallback .transport),
        [.started "lookup", .stateChanged .received, .webhookFailed 0 .missingArguments,
          .stateChanged .invokedWebhook, .webhookAttempt 1 1 none, .webhookAttempt 1 2 none,
          .webhookFailed 1 .transport, .stateChanged .projected, .stateChanged .completed,
          .completed "lookup" (.fallback .transport) 200]) := by
    decide +kernel
  obtain ⟨tool, hc, hrun⟩ := Option.map_eq_some_iff.1 hrun
  obtain ⟨⟨r, w', he⟩, traces⟩ :=
    invoke_isTraceOf (ofTool tool) { tool := "lookup" } "" { network := .nowhere }
  obtain ⟨-, htool, t, ht, hx⟩ := traces _ r w' he
  simp only [he, Option.map_some, Prod.mk.injEq, Option.some.injEq] at hrun
  obtain ⟨ho, hf⟩ := hrun
  have hft : w'.events.map (·.fact) = t := by
    rw [ht]
    simp [Function.comp_def]
  rw [ho, ← hft, hf] at hx
  exact ⟨tool, Except.toOption_eq_some.1 hc, hx⟩

end Engine
end AgentTool
