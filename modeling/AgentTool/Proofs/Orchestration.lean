import AgentTool.Proofs.Answers
import AgentTool.Proofs.ScopeLaws

/-!
# The way to an answer

A run of a data map comes to the one answer that its rules and webhooks allow
(`runMap_answers`), unless its limits stop it.  It has then made no attempt at a
webhook beyond the one that answered, and none at all when a rule did.
-/

namespace AgentTool

/-- From `w` to `w'` events have been reported, but no attempt at a webhook from position `bound`
on. -/
def World.TriesBelow (bound : Nat) (w w' : World) : Prop :=
  w.Reports (fun fact => ∀ k n s, fact = .webhookAttempt k n s → k < bound) w'

namespace World.TriesBelow

variable {bound bound' : Nat} {w w₁ w₂ : World}

/-- No webhook is tried where no event is added. -/
theorem of_eq (h : w₁.events = w.events) : w.TriesBelow bound w₁ := Reports.of_eq h

/-- Webhooks that are tried by one run and then by another are tried by both. -/
theorem trans (h₁ : w.TriesBelow bound w₁) (h₂ : w₁.TriesBelow bound w₂) :
    w.TriesBelow bound w₂ := Reports.trans h₁ h₂

/-- Webhooks below a bound are below any greater one. -/
theorem mono (h : w.TriesBelow bound w₁) (hb : bound ≤ bound') : w.TriesBelow bound' w₁ :=
  Reports.mono h fun _ ht k n s hf => Nat.lt_of_lt_of_le (ht k n s hf) hb

/-- A report that is not of an attempt does not count. -/
theorem report {e : Event} (h : w.TriesBelow bound w₁)
    (he : ∀ k n s, e.fact ≠ .webhookAttempt k n s) :
    w.TriesBelow bound { w₁ with events := w₁.events ++ [e] } :=
  Reports.report h fun k n s hf => absurd hf (he k n s)

end World.TriesBelow

namespace Engine

variable {f : Frame} {w : World}

/-- **The rules answer as they should, or leave it to the webhooks.** -/
theorem runRules_meets {S : Stop → World → Prop} :
    (runRules f).Meets w
      (fun answer? w' => w'.network = w.network ∧ w.TriesBelow 0 w' ∧
        match answer? with
        | some a => f.Answers w.network a w.network
        | none => f.Unmatched ∧ (f.map.webhooks = [] → ∀ r ∈ f.map.matcher, r.rule.otherwise = none))
      S := by
  have start : w.TriesBelow 0 w := .of_eq rfl
  unfold runRules
  by_cases hm : f.map.matcher.isEmpty = true
  · have hnil : f.map.matcher = [] := List.isEmpty_iff.1 hm
    rw [if_pos hm]
    exact Run.Meets.pure ⟨rfl, start, by simp [Frame.Unmatched, hnil], by simp [hnil]⟩
  rw [if_neg hm]
  cases he : f.map.matcher.evaluate? f.scopes with
  | some found =>
    obtain ⟨i, r⟩ := found
    refine Run.Meets.emit_bind (Run.Meets.enter_bind (Run.Meets.enter_bind (Run.Meets.pure ?_)))
    exact ⟨rfl, ((start.report (by simp)).report (by simp)).report (by simp),
      .expression (Matcher.isFirst_of_firstIndexed? he)⟩
  | none =>
    have hu : f.Unmatched := Matcher.not_of_firstIndexed? he
    refine Run.Meets.emit_bind ?_
    by_cases hw : f.map.webhooks = []
    · rw [if_neg (by simp [hw])]
      cases hd : f.map.matcher.default? with
      | none =>
        have hno := Matcher.not_of_firstIndexed? hd
        refine Run.Meets.pure ⟨rfl, start.report (by simp), hu, fun _ r hr => ?_⟩
        simpa using hno r hr
      | some found =>
        obtain ⟨i, r⟩ := found
        have hi := Matcher.isFirst_of_firstIndexed? hd
        obtain ⟨o, ho⟩ := Option.isSome_iff_exists.1 hi.2.1
        simp only [ho]
        refine Run.Meets.enter_bind (Run.Meets.pure ?_)
        exact ⟨rfl, (start.report (by simp)).report (by simp), .otherwise hu hw hi ho⟩
    · rw [if_pos (by simpa using hw)]
      exact Run.Meets.pure ⟨rfl, start.report (by simp), hu, fun h => absurd h hw⟩

/-- A call comes to what the network decides, and attempts are made for this webhook alone. -/
theorem call_meets {h : Webhook} {index : Nat} :
    (Run.call ⟨f.engine.config, f.limits, f.id, index⟩ h f.scopes).Meets w
      (fun result w' => f.Calls h w.network result w'.network ∧ w.TriesBelow (index + 1) w')
      (fun _ _ => ¬f.limits.IsOpen) := by
  rw [Run.call_eq]
  unfold Frame.Calls
  cases h.prepare f.scopes with
  | error failure => exact Run.Meets.pure ⟨⟨rfl, rfl⟩, .of_eq rfl⟩
  | ok r =>
    refine (Run.attempts_meets (Nat.zero_add _)).mono ?_
    rintro result w' ⟨k, hk, hr, hn, he⟩
    refine ⟨⟨k, hk, hr, hn⟩, _, he, fun e hm k n s hf => ?_⟩
    obtain ⟨j, -, rfl⟩ := List.mem_map.1 hm
    cases hf
    exact Nat.lt_succ_self index

/-- A call that comes to a result does so in the network. -/
theorem calls_of_exec {h : Webhook} {index : Nat} {w' : World}
    {result : Except CallFailure (Nat × Json)}
    (hr : (Run.call ⟨f.engine.config, f.limits, f.id, index⟩ h f.scopes).exec w = (.ok result, w')) :
    f.Calls h w.network result w'.network := by
  have hm : (Run.call ⟨f.engine.config, f.limits, f.id, index⟩ h f.scopes).Meets w _ _ := call_meets
  unfold Run.Meets at hm
  rw [hr] at hm
  exact hm.1

/-- A webhook that has its arguments gives an output or fails. -/
theorem runWebhook_meets {h : Webhook} {index : Nat} (hl : ¬f.Lacks h) :
    (runWebhook f index h).Meets w
      (fun result w' => w.TriesBelow (index + 1) w' ∧ match result with
        | .ok a => ∃ status, a.2 = .webhook index status ∧ f.Gives h w.network status a.1 w'.network
        | .error last => f.Fails h w.network last w'.network)
      (fun _ _ => ¬f.limits.IsOpen) := by
  refine Run.Meets.bind call_meets ?_
  rintro result w₁ ⟨hc, ht⟩
  rcases result with last | ⟨status, body⟩
  · exact Run.Meets.pure ⟨ht, .call hl hc⟩
  · refine Run.Meets.pure ⟨ht, ?_⟩
    cases hp : h.project f.map.errorKeys body (f.scopes.push.bindResponse body) with
    | error reason => exact .projection hl hc hp
    | ok out => exact ⟨status, rfl, .intro hl hc hp⟩

/-- A required argument is missing exactly if the search for one finds it. -/
theorem lacks_iff {h : Webhook} : f.Lacks h ↔ (h.missingArgument? f.args).isSome = true := by
  simp [Frame.Lacks, Webhook.missingArgument?, List.find?_isSome]

/-- What a run of webhooks goes on with once one of them has been called. -/
def afterCall (f : Frame) (index : Nat) (hs : List Webhook) (R : Reading := .standard) :
    Except LastFailure Answer → Run (Except LastFailure Answer)
  | .ok answer => do
    Run.enter f.id .projected
    return .ok answer
  | .error last => do
    Run.emit f.id (.webhookFailed index last.failure)
    runWebhooks f (index + 1) true last hs R

/-- A webhook that lacks an argument is reported and passed over. -/
theorem runWebhooks_skip {index : Nat} {invoked : Bool} {last : LastFailure} {h : Webhook}
    {hs : List Webhook} {R : Reading} (hl : f.Lacks h) :
    runWebhooks f index invoked last (h :: hs) R =
      Run.emit f.id (.webhookFailed index .missingArguments) >>= fun _ =>
        runWebhooks f (index + 1) invoked ⟨.missingArguments, none⟩ hs R := by
  rw [runWebhooks, if_pos (lacks_iff.1 hl)]

/-- A webhook that has its arguments is called, and the first such call is reported as a state. -/
theorem runWebhooks_cons {index : Nat} {invoked : Bool} {last : LastFailure} {h : Webhook}
    {hs : List Webhook} {R : Reading} (hl : ¬f.Lacks h) :
    runWebhooks f index invoked last (h :: hs) R =
      if invoked then runWebhook f index h R >>= afterCall f index hs R
      else Run.enter f.id .invokedWebhook >>= fun _ =>
        runWebhook f index h R >>= afterCall f index hs R := by
  unfold runWebhooks
  rw [if_neg (mt lacks_iff.2 hl)]
  cases invoked
  · rfl
  · rfl

/-- If the items from a position on are `a` and `rest`, then `a` stands there and `rest` behind it.
-/
theorem getElem?_of_drop {α : Type} {as rest : List α} {a : α} {i : Nat}
    (h : as.drop i = a :: rest) : as[i]? = some a ∧ as.drop (i + 1) = rest := by
  constructor
  · rw [← List.head?_drop, h, List.head?_cons]
  · rw [← List.tail_drop, h, List.tail_cons]

/-- What trying the webhooks comes to: the output of the first that gives one, or the last of
their failures.  They are tried in the network `n`, and `w₀` is a world before all of them. -/
def Tried (f : Frame) (n : Network) (w₀ : World) : Except LastFailure Answer → World → Prop
  | .ok a, w' => ∃ i status h last n₁, a.2 = .webhook i status ∧ f.Failed n i last n₁ ∧
      f.map.webhooks[i]? = some h ∧ f.Gives h n₁ status a.1 w'.network ∧ w₀.TriesBelow (i + 1) w'
  | .error last, w' => f.Failed n f.map.webhooks.length last w'.network ∧
      w₀.TriesBelow f.map.webhooks.length w'

/-- **The webhooks are tried in order until one gives an output.**  `hs` are the webhooks from
`index` on, and those before have failed. -/
theorem runWebhooks_meets {n : Network} {w₀ : World} {index : Nat} {invoked : Bool}
    {last : LastFailure} {hs : List Webhook} (hd : f.map.webhooks.drop index = hs)
    (hf : f.Failed n index last w.network) (ht : w₀.TriesBelow index w) :
    (runWebhooks f index invoked last hs).Meets w (Tried f n w₀) (fun _ _ => ¬f.limits.IsOpen) := by
  induction hs generalizing w index invoked last with
  | nil =>
    have hlen : index = f.map.webhooks.length :=
      Nat.le_antisymm hf.le_length (List.drop_eq_nil_iff.1 hd)
    subst hlen
    exact Run.Meets.pure ⟨hf, ht⟩
  | cons h hs ih =>
    obtain ⟨hh, hd'⟩ := getElem?_of_drop hd
    have ht' : w₀.TriesBelow (index + 1) w := ht.mono (Nat.le_succ index)
    by_cases hl : f.Lacks h
    · rw [runWebhooks_skip hl]
      exact Run.Meets.emit_bind (ih hd' (hf.next hh (.skipped hl)) (ht'.report (by simp)))
    · have hcall : ∀ w₁ : World, w₁.network = w.network → w₀.TriesBelow (index + 1) w₁ →
          (runWebhook f index h >>= afterCall f index hs).Meets w₁ (Tried f n w₀)
            (fun _ _ => ¬f.limits.IsOpen) := by
        intro w₁ hn ht₁
        refine Run.Meets.bind (runWebhook_meets hl) ?_
        rintro result w₂ ⟨ht₂, hr⟩
        rw [hn] at hr
        rcases result with last' | a
        · exact Run.Meets.emit_bind
            (ih hd' (hf.next hh hr) ((ht₁.trans ht₂).report (by simp)))
        · obtain ⟨status, ha, hg⟩ := hr
          exact Run.Meets.enter_bind (Run.Meets.pure
            ⟨index, status, h, last, w.network, ha, hf, hh, hg, (ht₁.trans ht₂).report (by simp)⟩)
      rw [runWebhooks_cons hl]
      cases invoked
      · exact Run.Meets.enter_bind (hcall _ rfl (ht'.report (by simp)))
      · exact hcall w rfl ht'

/-- The position below which an answer may have been preceded by attempts: none for the answer of
a rule, and up to itself for the answer of a webhook. -/
def triesBefore (f : Frame) : Outcome → Nat
  | .expression _ | .otherwise _ => 0
  | .webhook i _ => i + 1
  | .fallback _ | .failed _ => f.map.webhooks.length

/-- The last resort of a data map: its fallback, or the failure text. -/
theorem fallback_answers {n n' : Network} {last : LastFailure} (hx : f.Exhausted n last n') :
    f.Answers n (f.engine.fallback f.map f.scopes last) n' := by
  unfold fallback
  cases ho : f.map.fallback with
  | none => exact .failed hx ho
  | some o => exact .fallback hx ho

/-- All webhooks are tried before the fallback. -/
theorem triesBefore_fallback {last : LastFailure} :
    triesBefore f (f.engine.fallback f.map f.scopes last).2 = f.map.webhooks.length := by
  unfold fallback
  cases f.map.fallback <;> rfl

/-- **A run answers by the rules of `Frame.Answers`.**  It is stopped only under limits that are
not open, and has made no attempt at a webhook beyond the one that answered. -/
theorem runMap_meets :
    (runMap f).Meets w (fun a w' => f.Answers w.network a w'.network ∧
      w.TriesBelow (triesBefore f a.2) w') (fun _ _ => ¬f.limits.IsOpen) := by
  refine Run.Meets.bind runRules_meets ?_
  rintro (_ | a) w₁ ⟨hn, ht, h⟩
  · obtain ⟨hu, ho⟩ := h
    refine Run.Meets.bind (runWebhooks_meets List.drop_zero .start ht) ?_
    rintro (last | ⟨out, outcome⟩) w₂ hr
    · obtain ⟨hf, ht₂⟩ := hr
      rw [hn] at hf
      refine Run.Meets.enter_bind (Run.Meets.pure ⟨fallback_answers ⟨hu, ho, hf⟩, ?_⟩)
      rw [triesBefore_fallback]
      exact ht₂.report (by simp)
    · obtain ⟨i, status, h, last, n₁, rfl, hf, hh, hg, ht₂⟩ := hr
      rw [hn] at hf
      exact Run.Meets.pure ⟨.webhook hu hf hh hg, ht₂⟩
  · exact Run.Meets.pure ⟨by rw [hn]; exact h, ht.mono (Nat.zero_le _)⟩

/-- In the fallback of an invocation `response` is bound exactly if the last failure came with a
body, and then to that body. -/
theorem fallbackScopes_response {e : Engine} {limits : Limits} {id : String} {m : ReadyMap}
    {args global : Json} {last : LastFailure} :
    (Frame.fallbackScopes ⟨e, limits, id, m, Scopes.forInvocation args global⟩ last).get?
      Scopes.responseName = last.body := by
  unfold Frame.fallbackScopes
  cases last.body with
  | none => rfl
  | some body => exact Scopes.get?_bindResponse

/-- **The run of a data map comes to the one answer that its rules and webhooks allow.**  Whatever
the arguments, the caller's variables and the network with the replies that it has in store: unless
the limits stop the run, it comes to an answer, which is the only one under `Frame.Answers` and
leaves the network as that says; of the webhooks only those up to the one that answered have been
attempted; and the fallback sees the body of the last failure as `response`, if there was one. -/
theorem runMap_answers (e : Engine) (limits : Limits) (id : String) (m : ReadyMap)
    (args global : Json) (w : World) :
    let f : Frame := ⟨e, limits, id, m, Scopes.forInvocation args global⟩
    (∀ last, (f.fallbackScopes last).get? Scopes.responseName = last.body) ∧
      ((¬limits.IsOpen ∧ ∃ stop w', (runMap f).exec w = (.error stop, w')) ∨
        ∃ a w', (runMap f).exec w = (.ok a, w') ∧
          (∀ b n, f.Answers w.network b n ↔ b = a ∧ n = w'.network) ∧
            w.TriesBelow (triesBefore f a.2) w') := by
  intro f
  refine ⟨fun last => fallbackScopes_response, ?_⟩
  have hm := runMap_meets (f := f) (w := w)
  unfold Run.Meets at hm
  rcases he : (runMap f).exec w with ⟨stop | a, w'⟩
  · rw [he] at hm
    exact .inl ⟨hm, stop, w', rfl⟩
  · rw [he] at hm
    obtain ⟨ha, ht⟩ := hm
    refine .inr ⟨a, w', rfl, fun b n => ⟨fun hb => hb.unique ha, ?_⟩, ht⟩
    rintro ⟨rfl, rfl⟩
    exact ha

end Engine
end AgentTool
