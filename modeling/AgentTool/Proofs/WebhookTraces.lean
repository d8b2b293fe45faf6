import AgentTool.Proofs.MapTraces

/-!
# What webhooks tell

The trace of webhooks that are tried in order (`Engine.Frame.Tries`), read in four ways: the states,
the webhooks that fail, the webhooks that it is about, and where its attempts stand.
-/

namespace AgentTool

namespace Event.Fact

/-- The state that a fact tells of. -/
def state? : Event.Fact → Option RunState
  | .stateChanged s => some s
  | _ => none

/-- The position of the webhook that a fact is about. -/
def webhook? : Event.Fact → Option Nat
  | .webhookAttempt k _ _ | .webhookFailed k _ => some k
  | _ => none

/-- The position of the webhook that a fact tells has failed. -/
def failed? : Event.Fact → Option Nat
  | .webhookFailed k _ => some k
  | _ => none

/-- The start or an end of an invocation. -/
def isBound : Event.Fact → Bool
  | .started _ | .cancelled _ | .completed .. => true
  | _ => false

/-- A fact that is about no webhook tells of no failure of one. -/
theorem failed?_eq_none {fact : Event.Fact} (h : fact.webhook? = none) : fact.failed? = none := by
  cases fact with
  | webhookFailed => cases h
  | _ => rfl

end Event.Fact

section Lists

variable {α : Type} {l r before after : List α} {a : α}

/-- What stands in an append, but not in its first part, stands in the second. -/
theorem append_eq_append_cons_left (hl : a ∉ l) (h : l ++ r = before ++ a :: after) :
    ∃ b, before = l ++ b ∧ r = b ++ a :: after := by
  rcases List.append_eq_append_iff.1 h with ⟨b, hb, hr⟩ | ⟨c, hc, hr⟩
  · exact ⟨b, hb, hr⟩
  · cases c with
    | nil => exact ⟨[], by simp [hc], hr.symm⟩
    | cons x c =>
      obtain ⟨rfl, -⟩ := List.cons.inj hr
      exact absurd (by simp [hc]) hl

/-- What stands in an append, but not in its second part, stands in the first. -/
theorem append_eq_append_cons_right (hr : a ∉ r) (h : l ++ r = before ++ a :: after) :
    ∃ c, l = before ++ a :: c ∧ after = c ++ r := by
  rcases List.append_eq_append_iff.1 h with ⟨b, -, hb⟩ | ⟨c, hc, ha⟩
  · exact absurd (by simp [hb]) hr
  · cases c with
    | nil =>
      have ha : a :: after = r := ha
      exact absurd (by simp [← ha]) hr
    | cons x c =>
      obtain ⟨rfl, hr⟩ := List.cons.inj ha
      exact ⟨c, hc, hr⟩

end Lists

/-! ## Traces of webhooks -/

namespace IsAttempts

variable {webhook : Nat} {t : List Event.Fact}

/-- Attempts are about a webhook. -/
theorem facts (h : IsAttempts webhook t) : ∀ fact ∈ t, fact.webhook?.isSome = true := by
  intro fact hf
  obtain ⟨n, status, rfl⟩ := h fact hf
  rfl

/-- A reading that passes over attempts reads nothing. -/
theorem filterMap_eq_nil {β : Type} {p : Event.Fact → Option β} (h : IsAttempts webhook t)
    (hp : ∀ n status, p (.webhookAttempt webhook n status) = none) : t.filterMap p = [] := by
  refine List.filterMap_eq_nil_iff.2 fun fact hf => ?_
  obtain ⟨n, status, rfl⟩ := h fact hf
  exact hp n status

/-- Attempts change no state. -/
theorem states (h : IsAttempts webhook t) : t.filterMap Event.Fact.state? = [] :=
  h.filterMap_eq_nil fun _ _ => rfl

/-- Attempts tell of no failure. -/
theorem failures (h : IsAttempts webhook t) : t.filterMap Event.Fact.failed? = [] :=
  h.filterMap_eq_nil fun _ _ => rfl

/-- Attempts at a webhook are about it alone. -/
theorem webhooks (h : IsAttempts webhook t) :
    ∀ k ∈ t.filterMap Event.Fact.webhook?, k = webhook := by
  intro k hk
  obtain ⟨fact, hf, hk⟩ := List.mem_filterMap.1 hk
  obtain ⟨n, status, rfl⟩ := h fact hf
  exact (Option.some.inj hk).symm

/-- Attempts at one webhook are in order. -/
theorem ordered (h : IsAttempts webhook t) :
    (t.filterMap Event.Fact.webhook?).Pairwise (· ≤ ·) :=
  List.pairwise_of_forall_mem_list fun a ha b hb =>
    Nat.le_of_eq ((h.webhooks a ha).trans (h.webhooks b hb).symm)

end IsAttempts

namespace Engine

/-- Nothing is told before the first call but that webhooks are called. -/
theorem entering_facts {invoked : Bool} :
    ∀ fact ∈ entering invoked, fact = .stateChanged .invokedWebhook := by
  cases invoked
  · exact fun fact hf => List.mem_singleton.1 hf
  · nofun

/-- What is told before the first call is about no webhook. -/
@[simp]
theorem entering_webhooks (invoked : Bool) :
    (entering invoked).filterMap Event.Fact.webhook? = [] := by
  cases invoked
  · rfl
  · rfl

/-- What is told before the first call is no failure. -/
@[simp]
theorem entering_failures (invoked : Bool) :
    (entering invoked).filterMap Event.Fact.failed? = [] := by
  cases invoked
  · rfl
  · rfl

namespace Frame.Tries

variable {f : Frame} {index stop : Nat} {invoked : Bool} {hs : List Webhook} {t : List Event.Fact}

/-- Webhooks are tried up to one of them, or all. -/
theorem le (h : f.Tries index invoked hs stop t) :
    index ≤ stop ∧ stop ≤ index + hs.length := by
  induction h with
  | exhausted => simp
  | skipped _ _ ih | failed _ _ _ ih =>
    rw [List.length_cons]
    omega
  | called => simp

/-- Webhooks tell nothing of rules and nothing of the start and the end. -/
theorem facts (h : f.Tries index invoked hs stop t) :
    ∀ fact ∈ t, fact = .stateChanged .invokedWebhook ∨ fact.webhook?.isSome = true := by
  induction h with
  | exhausted => nofun
  | skipped _ _ ih => exact List.forall_mem_cons.2 ⟨.inr rfl, ih⟩
  | failed _ ha _ ih =>
    refine List.forall_mem_append.2 ⟨fun fact hf => .inl (entering_facts fact hf), ?_⟩
    refine List.forall_mem_append.2 ⟨fun fact hf => .inr (ha.facts fact hf), ?_⟩
    exact List.forall_mem_cons.2 ⟨.inr rfl, ih⟩
  | called _ ha =>
    exact List.forall_mem_append.2
      ⟨fun fact hf => .inl (entering_facts fact hf), fun fact hf => .inr (ha.facts fact hf)⟩

/-- That webhooks are called is told only if one of them has its arguments. -/
theorem states (h : f.Tries index invoked hs stop t) :
    t.filterMap Event.Fact.state? = if ∃ h ∈ hs, ¬h.Skipped f.args then
      (entering invoked).filterMap Event.Fact.state? else [] := by
  induction h with
  | exhausted => simp
  | skipped hl _ ih => simpa [List.filterMap_cons, Event.Fact.state?, hl] using ih
  | failed hl ha _ ih =>
    simp [List.filterMap_cons, Event.Fact.state?, ha.states, ih, hl, entering]
  | called hl ha => simp [ha.states, hl]

/-- Each webhook before the stop fails once, in order. -/
theorem failures (h : f.Tries index invoked hs stop t) :
    t.filterMap Event.Fact.failed? = List.range' index (stop - index) := by
  have next : ∀ {i k : Nat}, i + 1 ≤ k →
      i :: List.range' (i + 1) (k - (i + 1)) = List.range' i (k - i) := by
    intro i k hik
    obtain ⟨d, rfl⟩ := Nat.exists_eq_add_of_le hik
    rw [Nat.add_sub_cancel_left, show i + 1 + d - i = d + 1 by omega, List.range'_succ]
  induction h with
  | exhausted => simp
  | skipped _ ht ih => simp [Event.Fact.failed?, ih, next ht.le.1]
  | failed _ ha ht ih => simp [Event.Fact.failed?, ha.failures, ih, next ht.le.1]
  | called _ ha => simp [ha.failures]

/-- What is told is about the webhooks from the first one up to the stop. -/
theorem webhooks (h : f.Tries index invoked hs stop t) :
    ∀ k ∈ t.filterMap Event.Fact.webhook?, index ≤ k ∧ k ≤ stop ∧ k < index + hs.length := by
  induction h with
  | exhausted => nofun
  | skipped _ ht ih =>
    have hle := ht.le
    rw [List.length_cons]
    refine List.forall_mem_cons.2 ⟨by omega, fun k hk => ?_⟩
    have := ih k hk
    omega
  | failed _ ha ht ih =>
    have hle := ht.le
    rw [List.length_cons, List.filterMap_append, List.filterMap_append, entering_webhooks,
      List.nil_append]
    refine List.forall_mem_append.2 ⟨fun k hk => ?_, List.forall_mem_cons.2 ⟨by omega, fun k hk => ?_⟩⟩
    · have := ha.webhooks k hk
      omega
    · have := ih k hk
      omega
  | called _ ha =>
    rw [List.length_cons, List.filterMap_append, entering_webhooks]
    intro k hk
    have := ha.webhooks k hk
    omega

/-- Webhooks that are tried are told of in their order. -/
theorem ordered (h : f.Tries index invoked hs stop t) :
    (t.filterMap Event.Fact.webhook?).Pairwise (· ≤ ·) := by
  induction h with
  | exhausted => exact .nil
  | skipped _ ht ih =>
    exact .cons (fun k hk => Nat.le_of_succ_le (ht.webhooks k hk).1) ih
  | failed _ ha ht ih =>
    have later := fun k hk => Nat.le_of_succ_le (ht.webhooks k hk).1
    rw [List.filterMap_append, List.filterMap_append, entering_webhooks, List.nil_append]
    refine List.pairwise_append.2 ⟨ha.ordered, .cons later ih, fun j hj => ?_⟩
    obtain rfl := ha.webhooks j hj
    exact List.forall_mem_cons.2 ⟨Nat.le_refl _, later⟩
  | called _ ha =>
    rw [List.filterMap_append, entering_webhooks]
    exact ha.ordered

/-- An attempt follows upon the state of calling webhooks, unless that was told before. -/
theorem attempts {k n : Nat} {status : Option Nat} {before after : List Event.Fact}
    (h : f.Tries index invoked hs stop t)
    (ht : t = before ++ .webhookAttempt k n status :: after) :
    invoked = true ∨ .stateChanged .invokedWebhook ∈ before := by
  have entered : ∀ {invoked : Bool} {before t : List Event.Fact},
      entering invoked ++ t = before ++ .webhookAttempt k n status :: after →
        invoked = true ∨ .stateChanged .invokedWebhook ∈ before := by
    intro invoked before t ht
    cases invoked with
    | true => exact .inl rfl
    | false =>
      obtain ⟨b, rfl, -⟩ := append_eq_append_cons_left (by simp [entering]) ht
      exact .inr List.mem_cons_self
  -- a skipped webhook tells one fact, which is no attempt, so what stands before can only shrink
  induction h generalizing before with
  | exhausted => simp at ht
  | @skipped index _ _ _ _ t _ _ ih =>
    have ht : [.webhookFailed index .missingArguments] ++ t = _ := ht
    obtain ⟨b, rfl, hb⟩ := append_eq_append_cons_left (by simp) ht
    exact (ih hb).imp_right (List.mem_cons_of_mem _)
  | failed => exact entered ht
  | called _ ha => exact entered ht

end Frame.Tries

end Engine
end AgentTool
