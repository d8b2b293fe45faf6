import AgentTool.Proofs.Invocations
import AgentTool.Proofs.Orchestration

/-!
# What a data map tells

The trace of a data map by the way to its answer.

| way | trace |
| --- | --- |
| a rule | the match, then the states of a match and of a projection |
| an output for no match | that no rule matched, then a projection |
| the webhooks, up to one that answers | the trace of the webhooks, then a projection |

Before the trace of the webhooks it is told that no rule matched, if there are rules.  A webhook
that lacks an argument only tells that it failed.  Any other tells its attempts and then that it
failed, unless it answers or the deadline passes; and the first such webhook tells before that
webhooks are called (`Engine.Frame.Tries`).  After the deadline nothing is told but the projection
of the fallback.
-/

namespace AgentTool

/-- A failure for which a tool is not run at all. -/
def Failure.isRefusal : Failure → Bool
  | .unknownTool | .notExecutable => true
  | _ => false

/-- A request that is not prepared is no refusal of the tool. -/
theorem Webhook.prepare_not_refusal {h : Webhook} {scopes : Scopes} {reason : Failure}
    (hp : h.prepare scopes = .error reason) : reason.isRefusal = false := by
  unfold Webhook.prepare at hp
  cases ha : h.address? scopes with
  | none =>
    rw [ha] at hp
    obtain rfl := Except.error.inj hp
    rfl
  | some url =>
    simp only [ha] at hp
    split at hp
    · obtain rfl := Except.error.inj hp
      rfl
    · split at hp
      · cases hp
      · cases hp

/-- A reply that is not projected is no refusal of the tool. -/
theorem Webhook.project_not_refusal {h : Webhook} {errorKeys : List String} {body : Json}
    {scopes : Scopes} {reason : Failure} (hp : h.project errorKeys body scopes = .error reason) :
    reason.isRefusal = false := by
  rcases Webhook.project_error hp with ⟨key, rfl⟩ | rfl | ⟨rfl, -⟩
  · rfl
  · rfl
  · rfl

/-- A trace of attempts at one webhook. -/
def IsAttempts (webhook : Nat) (t : List Event.Fact) : Prop :=
  ∀ fact ∈ t, ∃ n status, fact = .webhookAttempt webhook n status

/-- No facts are attempts. -/
theorem IsAttempts.nil {webhook : Nat} : IsAttempts webhook [] := nofun

/-- One attempt before attempts makes attempts. -/
theorem IsAttempts.cons {webhook n : Nat} {status : Option Nat} {t : List Event.Fact}
    (h : IsAttempts webhook t) : IsAttempts webhook (.webhookAttempt webhook n status :: t) :=
  List.forall_mem_cons.2 ⟨⟨n, status, rfl⟩, h⟩

/-! ## Calls -/

namespace Run

variable {site : CallSite} {r : Request}

/-- An attempt tells nothing by itself. -/
theorem attempt_tells {id : String} {config : Config} {limits : Limits} :
    Tells id (attempt config limits r) (fun _ t => t = []) fun s t => limits.Allow s ∧ t = [] := by
  unfold attempt
  cases Sent.ofRequest config.userAgent r with
  | error e => exact Tells.pure rfl
  | ok sent =>
    refine Tells.bind (Q := fun _ t => t = []) (Tells.exchange fun _ => rfl) ?_
    rintro met _ rfl
    refine Tells.bind (Q := fun _ t => t = []) (Tells.wait rfl fun s ha => ⟨ha, rfl⟩) ?_
    rintro _ _ rfl
    exact Tells.pure rfl

/-- An attempt that is reported tells its number and its status, unless it is stopped. -/
theorem attemptReported_tells (n : Nat) :
    Tells site.invocation (attemptReported site r n)
      (fun result t => t = [.webhookAttempt site.webhook (n + 1) (statusOf? result)])
      fun s t => site.limits.Allow s ∧ t = [] := by
  refine Tells.bind attempt_tells ?_
  rintro result _ rfl
  exact Tells.emit_bind (Tells.pure rfl)

/-- A reply that is not read is no refusal of the tool. -/
theorem readReply_not_refusal {status : Nat} {bytes : List UInt8} {last : CallFailure}
    (h : readReply status bytes = .error last) : last.failure.isRefusal = false := by
  unfold readReply at h
  split at h
  · cases h
  · obtain rfl := Except.error.inj h
    rfl

/-- An attempt that fails is no refusal of the tool. -/
theorem failure_not_refusal (e : AttemptError) : e.failure.failure.isRefusal = false := by
  cases e <;> rfl

/-- **A call tells its attempts and nothing else.** -/
theorem attempts_tells (n left : Nat) :
    Tells site.invocation (attempts site r n left)
      (fun result t => IsAttempts site.webhook t ∧
        ∀ last, result = .error last → last.failure.isRefusal = false)
      fun s t => site.limits.Allow s ∧ IsAttempts site.webhook t := by
  have failed : ∀ (e : AttemptError) last, Except.error e.failure =
      (Except.error last : Except CallFailure (Nat × Json)) → last.failure.isRefusal = false := by
    intro e last h
    obtain rfl := Except.error.inj h
    exact failure_not_refusal e
  have reported : ∀ n, Tells site.invocation (attemptReported site r n)
      (fun result t => t = [.webhookAttempt site.webhook (n + 1) (statusOf? result)])
      fun s t => site.limits.Allow s ∧ IsAttempts site.webhook t := fun n =>
    (attemptReported_tells n).imp (fun _ _ h => h) fun s t ⟨ha, ht⟩ => ⟨ha, ht ▸ .nil⟩
  induction left generalizing n with
  | zero =>
    rw [attempts_zero]
    refine Tells.bind (reported n) ?_
    rintro (e | ⟨status, bytes⟩) _ rfl
    · exact Tells.pure ⟨.cons .nil, failed e⟩
    · exact Tells.pure ⟨.cons .nil, fun last => readReply_not_refusal⟩
  | succ left ih =>
    rw [attempts_succ]
    refine Tells.bind (reported n) ?_
    rintro (e | ⟨status, bytes⟩) _ rfl
    · cases hd : (RetryPolicy.ofConfig site.config).next? e n with
      | none =>
        simp only [hd]
        exact Tells.pure ⟨.cons .nil, failed e⟩
      | some delay =>
        simp only [hd]
        refine Tells.bind (Q := fun _ t => t = [])
          (Tells.wait rfl fun s ha => ⟨ha, .cons .nil⟩) ?_
        rintro _ _ rfl
        exact (ih (n + 1)).imp (fun _ _ h => ⟨.cons h.1, h.2⟩) fun _ _ h => ⟨h.1, .cons h.2⟩
    · exact Tells.pure ⟨.cons .nil, fun last => readReply_not_refusal⟩

end Run

/-! ## Webhooks -/

namespace Engine

variable {f : Frame}

/-- The call of a webhook with its scopes tells attempts at it. -/
theorem runWebhook_tells (index : Nat) (h : Webhook) :
    Run.Tells f.id (runWebhook f index h)
      (fun result t => IsAttempts index t ∧ match result with
        | .ok a => ∃ status, a.2 = .webhook index status
        | .error last => last.failure.isRefusal = false)
      fun s t => f.limits.Allow s ∧ IsAttempts index t := by
  have hcall : Run.Tells f.id (Run.call ⟨f.engine.config, f.limits, f.id, index⟩ h f.scopes)
      (fun result t => IsAttempts index t ∧
        ∀ last, result = .error last → last.failure.isRefusal = false)
      fun s t => f.limits.Allow s ∧ IsAttempts index t := by
    rw [Run.call_eq]
    cases hp : h.prepare f.scopes with
    | error reason =>
      refine Run.Tells.pure ⟨.nil, fun last he => ?_⟩
      obtain rfl := Except.error.inj he
      exact Webhook.prepare_not_refusal hp
    | ok r => exact Run.attempts_tells 0 _
  refine Run.Tells.bind hcall ?_
  rintro (last | ⟨status, body⟩) t ⟨ht, hr⟩
  · exact Run.Tells.pure ⟨by simpa using ht, hr last rfl⟩
  · refine Run.Tells.pure ⟨by simpa using ht, ?_⟩
    cases hp : h.project f.map.errorKeys body (f.scopes.push.bindResponse body) with
    | ok out => exact ⟨status, rfl⟩
    | error reason => exact Webhook.project_not_refusal hp

/-- What is told before the first webhook is called. -/
def entering (invoked : Bool) : List Event.Fact :=
  if invoked then [] else [.stateChanged .invokedWebhook]

/-- The trace of webhooks that stand from a position on, up to the position `stop`: those before it
have failed, and at it one has been called that has not failed, unless there are no more.  `invoked`
tells whether one has been called before. -/
inductive Frame.Tries (f : Frame) : Nat → Bool → List Webhook → Nat → List Event.Fact → Prop
  | exhausted {index : Nat} {invoked : Bool} : Tries f index invoked [] index []
  | skipped {index stop : Nat} {invoked : Bool} {h : Webhook} {hs : List Webhook}
      {t : List Event.Fact} : h.Skipped f.args → Tries f (index + 1) invoked hs stop t →
        Tries f index invoked (h :: hs) stop (.webhookFailed index .missingArguments :: t)
  | failed {index stop : Nat} {invoked : Bool} {h : Webhook} {hs : List Webhook}
      {a t : List Event.Fact} {reason : Failure} : ¬h.Skipped f.args → IsAttempts index a →
        Tries f (index + 1) true hs stop t →
          Tries f index invoked (h :: hs) stop
            (entering invoked ++ (a ++ .webhookFailed index reason :: t))
  | called {index : Nat} {invoked : Bool} {h : Webhook} {hs : List Webhook} {a : List Event.Fact} :
      ¬h.Skipped f.args → IsAttempts index a →
        Tries f index invoked (h :: hs) index (entering invoked ++ a)

/-- What a run of webhooks comes to and its trace: one of them answers and is projected, or all have
failed. -/
def Frame.Ended (f : Frame) (index : Nat) (invoked : Bool) (hs : List Webhook) :
    Except LastFailure Answer → List Event.Fact → Prop
  | .ok a, t => ∃ u stop status, t = u ++ [.stateChanged .projected] ∧
      f.Tries index invoked hs stop u ∧ stop < index + hs.length ∧ a.2 = .webhook stop status
  | .error last, t => last.failure.isRefusal = false ∧
      f.Tries index invoked hs (index + hs.length) t

/-- A run of webhooks is stopped while one of them is called. -/
def Frame.CutOff (f : Frame) (index : Nat) (invoked : Bool) (hs : List Webhook) (s : Stop)
    (t : List Event.Fact) : Prop :=
  f.limits.Allow s ∧ ∃ stop, f.Tries index invoked hs stop t ∧ stop < index + hs.length

section Steps

variable {index : Nat} {invoked : Bool} {h : Webhook} {hs : List Webhook} {s : Stop}
  {result : Except LastFailure Answer} {reason : Failure} {a t : List Event.Fact}

/-- The index behind all webhooks, counted from the second one on. -/
theorem end_of_cons : index + 1 + hs.length = index + (h :: hs).length :=
  Nat.succ_add_eq_add_succ index hs.length

/-- What the webhooks after a skipped one come to, they come to with it. -/
theorem Frame.Ended.skipped (hl : h.Skipped f.args) (ht : f.Ended (index + 1) invoked hs result t) :
    f.Ended index invoked (h :: hs) result (.webhookFailed index .missingArguments :: t) := by
  cases result with
  | error last => exact ⟨ht.1, .skipped hl (end_of_cons ▸ ht.2)⟩
  | ok answer =>
    obtain ⟨u, stop, status, rfl, hu, hlt, ha⟩ := ht
    exact ⟨_, stop, status, rfl, .skipped hl hu, end_of_cons ▸ hlt, ha⟩

/-- What the webhooks after a failed one come to, they come to with it. -/
theorem Frame.Ended.failed (hl : ¬h.Skipped f.args) (ha : IsAttempts index a)
    (ht : f.Ended (index + 1) true hs result t) :
    f.Ended index invoked (h :: hs) result
      (entering invoked ++ (a ++ .webhookFailed index reason :: t)) := by
  cases result with
  | error last => exact ⟨ht.1, .failed hl ha (end_of_cons ▸ ht.2)⟩
  | ok answer =>
    obtain ⟨u, stop, status, rfl, hu, hlt, hs⟩ := ht
    exact ⟨entering invoked ++ (a ++ .webhookFailed index reason :: u), stop, status, by simp,
      .failed hl ha hu, end_of_cons ▸ hlt, hs⟩

/-- Webhooks that are cut off are cut off behind one that is skipped, too. -/
theorem Frame.CutOff.skipped (hl : h.Skipped f.args) (ht : f.CutOff (index + 1) invoked hs s t) :
    f.CutOff index invoked (h :: hs) s (.webhookFailed index .missingArguments :: t) := by
  obtain ⟨hs, stop, hu, hlt⟩ := ht
  exact ⟨hs, stop, .skipped hl hu, end_of_cons ▸ hlt⟩

/-- Webhooks that are cut off are cut off behind one that failed, too. -/
theorem Frame.CutOff.failed (hl : ¬h.Skipped f.args) (ha : IsAttempts index a)
    (ht : f.CutOff (index + 1) true hs s t) :
    f.CutOff index invoked (h :: hs) s
      (entering invoked ++ (a ++ .webhookFailed index reason :: t)) := by
  obtain ⟨hs, stop, hu, hlt⟩ := ht
  exact ⟨hs, stop, .failed hl ha hu, end_of_cons ▸ hlt⟩

/-- A stop during a call comes before the webhook has failed. -/
theorem Frame.CutOff.called (hl : ¬h.Skipped f.args) (hs' : f.limits.Allow s)
    (ha : IsAttempts index a) : f.CutOff index invoked (h :: hs) s (entering invoked ++ a) :=
  ⟨hs', index, .called hl ha, by simp⟩

end Steps

/-- **The webhooks tell of their calls in order.** -/
theorem runWebhooks_tells {index : Nat} {invoked : Bool} {last : LastFailure} {hs : List Webhook}
    (hl : last.failure.isRefusal = false) :
    Run.Tells f.id (runWebhooks f index invoked last hs) (f.Ended index invoked hs)
      (f.CutOff index invoked hs) := by
  induction hs generalizing index invoked last with
  | nil => exact Run.Tells.pure ⟨hl, .exhausted⟩
  | cons h hs ih =>
    by_cases hk : h.Skipped f.args
    · rw [runWebhooks_skip hk]
      exact Run.Tells.emit_bind ((ih rfl).imp (fun _ _ ht => ht.skipped hk) fun _ _ ht => ht.skipped hk)
    · have hcall : Run.Tells f.id (runWebhook f index h >>= afterCall f index hs)
          (fun result t => f.Ended index invoked (h :: hs) result (entering invoked ++ t))
          fun s t => f.CutOff index invoked (h :: hs) s (entering invoked ++ t) := by
        refine Run.Tells.bind ((runWebhook_tells index h).imp (fun _ _ hr => hr) fun s t hs =>
          .called hk hs.1 hs.2) ?_
        rintro (last' | answer) t ⟨ht, hr⟩
        · exact Run.Tells.emit_bind ((ih hr).imp (fun _ _ hu => hu.failed hk ht) fun _ _ hu =>
            hu.failed hk ht)
        · obtain ⟨status, ho⟩ := hr
          refine Run.Tells.enter_bind (Run.Tells.pure ?_)
          exact ⟨_, index, status, (List.append_assoc _ _ _).symm, .called hk ht, by simp, ho⟩
      rw [runWebhooks_cons hk]
      cases invoked
      · exact Run.Tells.enter_bind hcall
      · exact hcall

/-! ## Data maps -/

/-- What is told before the webhooks: that no rule matched, if there are rules. -/
def IsLead (t : List Event.Fact) : Prop := t = [] ∨ t = [.expressionNoMatch]

/-- Before the webhooks nothing is told but that no rule matched. -/
theorem IsLead.eq_expressionNoMatch {lead : List Event.Fact} (h : IsLead lead) :
    ∀ fact ∈ lead, fact = .expressionNoMatch := by
  rcases h with rfl | rfl
  · nofun
  · exact fun fact hf => List.mem_singleton.1 hf

/-- An outcome that the webhooks come to when they end at the position `stop`: the answer of the
webhook there, or the last resort after all of them or after the deadline. -/
def Frame.EndsAt (f : Frame) (stop : Nat) : Outcome → Prop
  | .webhook index _ => stop = index ∧ index < f.map.webhooks.length
  | .fallback reason | .failed reason => reason.isRefusal = false ∧
      (stop = f.map.webhooks.length ∨ stop < f.map.webhooks.length ∧ reason = .timeout)
  | _ => False

/-- The trace of a data map by its outcome. -/
inductive Frame.Traces (f : Frame) : Outcome → List Event.Fact → Prop
  | expression {rule : Nat} : Traces f (.expression rule)
      [.expressionMatched rule, .stateChanged .matchedExpression, .stateChanged .projected]
  | otherwise {rule : Nat} : f.map.webhooks = [] → Traces f (.otherwise rule)
      [.expressionNoMatch, .stateChanged .projected]
  | tried {outcome : Outcome} {stop : Nat} {lead t : List Event.Fact} : IsLead lead →
      f.Tries 0 false f.map.webhooks stop t → f.EndsAt stop outcome →
        Traces f outcome (lead ++ t ++ [.stateChanged .projected])

/-- The rules tell of a match, or that there is none. -/
theorem runRules_tells :
    Run.Tells f.id (runRules f)
      (fun answer? t => match answer? with
        | some a => f.Traces a.2 t
        | none => IsLead t)
      fun _ _ => False := by
  unfold runRules
  by_cases hm : f.map.matcher.isEmpty = true
  · rw [if_pos hm]
    exact Run.Tells.pure (.inl rfl)
  rw [if_neg hm]
  cases f.map.matcher.evaluate? f.scopes with
  | some found =>
    exact Run.Tells.emit_bind (Run.Tells.enter_bind (Run.Tells.enter_bind (Run.Tells.pure .expression)))
  | none =>
    refine Run.Tells.emit_bind ?_
    by_cases hw : f.map.webhooks = []
    · rw [if_neg (by simp [hw])]
      cases f.map.matcher.default? with
      | none => exact Run.Tells.pure (.inr rfl)
      | some found =>
        cases ho : found.2.rule.otherwise with
        | none =>
          simp only [ho]
          exact Run.Tells.pure (.inr rfl)
        | some o =>
          simp only [ho]
          exact Run.Tells.enter_bind (Run.Tells.pure (.otherwise hw))
    · rw [if_pos (by simpa using hw)]
      exact Run.Tells.pure (.inr rfl)

/-- The last resort ends the webhooks for the reason of the last failure. -/
theorem fallback_endsAt {last : LastFailure} {stop : Nat} (hl : last.failure.isRefusal = false)
    (hs : stop = f.map.webhooks.length ∨
      stop < f.map.webhooks.length ∧ last.failure = .timeout) :
    f.EndsAt stop (f.engine.fallback f.map f.scopes last).2 := by
  unfold fallback
  cases f.map.fallback with
  | none => exact ⟨hl, hs⟩
  | some o => exact ⟨hl, hs⟩

/-- **A data map tells the way to its answer.**  It is stopped only while a webhook is called. -/
theorem runMap_tells :
    Run.Tells f.id (runMap f) (fun a t => f.Traces a.2 t) fun s t =>
      ∃ lead u, t = lead ++ u ∧ IsLead lead ∧ f.CutOff 0 false f.map.webhooks s u := by
  refine Run.Tells.bind (runRules_tells.imp (fun _ _ h => h) fun _ _ => False.elim) ?_
  rintro (_ | a) lead hlead
  · refine Run.Tells.bind ((runWebhooks_tells rfl).imp (fun _ _ h => h) fun s t h =>
      ⟨lead, t, rfl, hlead, h⟩) ?_
    rintro (last | a) t ht
    · refine Run.Tells.enter_bind (Run.Tells.pure ?_)
      rw [← List.append_assoc]
      exact .tried hlead ht.2 (fallback_endsAt ht.1 (.inl (Nat.zero_add _)))
    · obtain ⟨u, stop, status, rfl, hu, hlt, ha⟩ := ht
      refine Run.Tells.pure ?_
      rw [ha, List.append_nil, ← List.append_assoc]
      exact .tried hlead hu ⟨rfl, by omega⟩
  · exact Run.Tells.pure (by rw [List.append_nil]; exact hlead)

/-- A deadline leads to the fallback, and only the caller stops a run in time. -/
theorem runInTime_tells :
    Run.Tells f.id (runInTime f) (fun a t => f.Traces a.2 t) fun s _ =>
      s = .cancelled ∧ f.limits.Allow .cancelled := by
  refine Run.Tells.tryCatch runMap_tells ?_
  rintro s _ ⟨lead, u, rfl, hlead, ha, stop, hu, hlt⟩
  cases s with
  | cancelled => exact Run.Tells.throw ⟨rfl, ha⟩
  | deadline =>
    exact Run.Tells.enter_bind (Run.Tells.pure
      (.tried hlead hu (fallback_endsAt rfl (.inr ⟨by omega, rfl⟩))))

end Engine
end AgentTool
