import AgentTool.Proofs.Orchestration
import AgentTool.Proofs.Readings

/-!
# What a run expands

A template is expanded at a site: in a rule or a request, for an item of a reply, in the output for
a reply, or in the fallback.  In a network a run comes to some of these sites only, and to each of
them with the replies that the network gives (`Engine.Frame.Expands`):

| site | reached |
| --- | --- |
| rule | always |
| request of a webhook | once the webhooks before it have failed |
| item, output | with the body of the reply that the call of this webhook has come to |
| fallback | with the last failure once all webhooks have failed, or when the time has run out |

There a run depends on how templates are read, and nowhere else (`Engine.runInTime_of_suits`).
-/

namespace AgentTool

/-- What a template is expanded for. -/
inductive Site where
  /-- a rule or a request -/
  | plain
  /-- an item of the body of a reply, at a position -/
  | item (body item : Json) (index : Nat)
  /-- the output for the body of a reply; if items have been joined, the name and their text -/
  | output (body : Json) (joined? : Option (String × String))
  /-- the fallback, after a failure with or without a body -/
  | fallback (body? : Option Json)

/-- The text of the items that a webhook has joined, and the name that it has for it. -/
def Webhook.joined? (h : Webhook) (body : Json) (scopes : Scopes) : Option (String × String) :=
  h.foreach.map fun g => (g.output, (g.run body scopes).1)

namespace Engine

/-- Where the run of a data map expands in a network: for a site, a template, in scopes. -/
inductive Frame.Expands (f : Frame) (n : Network) : Site → String → Scopes → Prop where
  | subject {r : ReadyRule} : r ∈ f.map.matcher → f.Expands n .plain r.rule.subject f.scopes
  | rule {r : ReadyRule} {s : String} : r ∈ f.map.matcher → r.rule.output.HasText s →
      f.Expands n .plain s f.scopes
  | otherwise {r : ReadyRule} {o : Output} {s : String} : r ∈ f.map.matcher →
      r.rule.otherwise = some o → o.HasText s → f.Expands n .plain s f.scopes
  | request {k : Nat} {h : Webhook} {last : LastFailure} {n₁ : Network} {s : String} :
      f.Failed n k last n₁ → f.map.webhooks[k]? = some h → h.HasRequestText s →
        f.Expands n .plain s f.scopes
  | item {k j status : Nat} {h : Webhook} {g : Foreach} {last : LastFailure} {body v : Json}
      {n₁ n₂ : Network} : f.Failed n k last n₁ → f.map.webhooks[k]? = some h →
        f.Calls h n₁ (.ok (status, body)) n₂ → h.foreach = some g → (g.items body)[j]? = some v →
          f.Expands n (.item body v j) g.append
            (Foreach.itemScopes (f.scopes.push.bindResponse body) j v)
  | output {k status : Nat} {h : Webhook} {o : Output} {last : LastFailure} {body : Json}
      {layer : Scopes} {n₁ n₂ : Network} {s : String} : f.Failed n k last n₁ →
        f.map.webhooks[k]? = some h → f.Calls h n₁ (.ok (status, body)) n₂ → h.output = some o →
          h.outputScopes body (f.scopes.push.bindResponse body) = .ok layer → o.HasText s →
            f.Expands n (.output body (h.joined? body (f.scopes.push.bindResponse body))) s layer
  | fallback {o : Output} {last : LastFailure} {n₁ : Network} {s : String} :
      f.Exhausted n last n₁ → f.map.fallback = some o → o.HasText s →
        f.Expands n (.fallback last.body) s (f.fallbackScopes last)
  | late {o : Output} {s : String} : f.map.fallback = some o → o.HasText s →
      f.Expands n (.fallback none) s (f.fallbackScopes ⟨.timeout, none⟩)

variable {R : Reading} {f : Frame} {n : Network} {w : World}

/-- A reading is right wherever the run of a data map expands in a network. -/
def Frame.Suits (f : Frame) (n : Network) (R : Reading) : Prop :=
  ∀ site s scopes, f.Expands n site s scopes → R.IsRightAt s scopes

/-! ## One step under a reading -/

/-- The fallback is the same by a reading that is right for it. -/
theorem fallback_of_isRight {last : LastFailure}
    (hr : ∀ o s, f.map.fallback = some o → o.HasText s → R.IsRightAt s (f.fallbackScopes last)) :
    f.engine.fallback f.map f.scopes last R = f.engine.fallback f.map f.scopes last := by
  unfold fallback
  cases ho : f.map.fallback with
  | none => rfl
  | some o =>
    exact congrArg (·, Outcome.fallback last.failure)
      (o.render_of_isRight fun s hs => hr o s ho hs)

/-- The rules do the same under a reading that is right wherever the run expands. -/
theorem runRules_of_suits (hr : f.Suits n R) : runRules f R = runRules f := by
  unfold runRules
  rw [Matcher.evaluate?_of_isRight fun r hm => hr _ _ _ (.subject hm)]
  cases he : f.map.matcher.evaluate? f.scopes with
  | some found =>
    obtain ⟨i, r⟩ := found
    have hm : r ∈ f.map.matcher := (Matcher.isFirst_of_firstIndexed? he).mem
    simp only [r.rule.output.render_of_isRight fun s hs => hr _ s _ (.rule hm hs)]
  | none =>
    cases hd : f.map.matcher.default? with
    | none => rfl
    | some found =>
      obtain ⟨i, r⟩ := found
      have hm : r ∈ f.map.matcher := (Matcher.isFirst_of_firstIndexed? hd).mem
      cases ho : r.rule.otherwise with
      | none => simp only [ho]
      | some o => simp only [ho, o.render_of_isRight fun s hs => hr _ s _ (.otherwise hm ho hs)]

/-- A webhook is called and its reply projected under a reading as under the standard one, once the
webhooks before it have failed. -/
theorem runWebhook_of_suits {k : Nat} {last : LastFailure} {h : Webhook} (hr : f.Suits n R)
    (hf : f.Failed n k last w.network) (hh : f.map.webhooks[k]? = some h) :
    (runWebhook f k h R).exec w = (runWebhook f k h).exec w := by
  unfold runWebhook
  rw [Run.call_of_isRight fun s hs => hr _ s _ (.request hf hh hs)]
  refine Run.exec_bind_congr call_meets ?_
  rintro (last' | ⟨status, body⟩) w₁ ⟨hcalls, -⟩
  · rfl
  · have hp : h.project f.map.errorKeys body (f.scopes.push.bindResponse body) R =
        h.project f.map.errorKeys body (f.scopes.push.bindResponse body) :=
      Webhook.project_of_isRight (fun g j v hg hj => hr _ _ _ (.item hf hh hcalls hg hj))
        fun o layer s ho hl hs => hr _ s layer (.output hf hh hcalls ho hl hs)
    simp only [hp]

/-! ## The run under a reading -/

/-- The webhooks are tried under a reading as under the standard one.  `hs` are the webhooks from
`index` on, and those before have failed. -/
theorem runWebhooks_of_suits {index : Nat} {invoked : Bool} {last : LastFailure}
    {hs : List Webhook} (hr : f.Suits n R) (hd : f.map.webhooks.drop index = hs)
    (hf : f.Failed n index last w.network) :
    (runWebhooks f index invoked last hs R).exec w =
      (runWebhooks f index invoked last hs).exec w := by
  induction hs generalizing w index invoked last with
  | nil => rfl
  | cons h hs ih =>
    obtain ⟨hh, hd'⟩ := getElem?_of_drop hd
    by_cases hl : f.Lacks h
    · rw [runWebhooks_skip hl, runWebhooks_skip hl]
      exact ih (w := { w with events := w.events ++ [⟨f.id, .webhookFailed index .missingArguments⟩] })
        hd' (hf.next hh (.skipped hl))
    · have hcall : ∀ w₁ : World, w₁.network = w.network →
          (runWebhook f index h R >>= afterCall f index hs R).exec w₁ =
            (runWebhook f index h >>= afterCall f index hs).exec w₁ := by
        intro w₁ hn
        rw [Run.exec_bind, runWebhook_of_suits hr (by rwa [hn]) hh, ← Run.exec_bind]
        refine Run.exec_bind_congr (runWebhook_meets hl) ?_
        rintro (last' | a) w₂ ⟨-, hres⟩
        · rw [hn] at hres
          exact ih (w := { w₂ with events := w₂.events ++ [⟨f.id, .webhookFailed index last'.failure⟩] })
            hd' (hf.next hh hres)
        · rfl
      rw [runWebhooks_cons hl, runWebhooks_cons hl]
      cases invoked
      · exact hcall { w with events := w.events ++ [⟨f.id, .stateChanged .invokedWebhook⟩] } rfl
      · exact hcall w rfl

/-- A data map is run under a reading as under the standard one. -/
theorem runMap_of_suits (hr : f.Suits w.network R) : (runMap f R).exec w = (runMap f).exec w := by
  unfold runMap
  rw [runRules_of_suits hr]
  refine Run.exec_bind_congr (S := fun _ _ => True) runRules_meets ?_
  rintro (_ | a) w₁ ⟨hn, -, h⟩
  · obtain ⟨hu, ho⟩ := h
    have hstart : f.Failed w.network 0 ⟨.noMatch, none⟩ w₁.network := by
      rw [hn]
      exact .start
    show (runWebhooks f 0 false ⟨.noMatch, none⟩ f.map.webhooks R >>= _).exec w₁ = _
    rw [Run.exec_bind, runWebhooks_of_suits hr List.drop_zero hstart, ← Run.exec_bind]
    refine Run.exec_bind_congr (runWebhooks_meets List.drop_zero hstart (.of_eq rfl)) ?_
    rintro (last | a) w₂ htried
    · have hf : f.engine.fallback f.map f.scopes last R = f.engine.fallback f.map f.scopes last :=
        fallback_of_isRight fun o s hfall hs =>
          hr _ s _ (.fallback ⟨hu, ho, htried.1⟩ hfall hs)
      simp only [hf]
    · rfl
  · rfl

/-- **A run depends on a reading only where it expands.**  Whatever a reading makes of other
templates in other scopes, a run in a network comes to the same, in the same way. -/
theorem runInTime_of_suits (hr : f.Suits w.network R) :
    (runInTime f R).exec w = (runInTime f).exec w := by
  have hlate : f.engine.fallback f.map f.scopes ⟨.timeout, none⟩ R =
      f.engine.fallback f.map f.scopes ⟨.timeout, none⟩ :=
    fallback_of_isRight fun o s ho hs => hr _ s _ (.late ho hs)
  unfold runInTime
  rw [Run.exec_tryCatch, Run.exec_tryCatch, runMap_of_suits hr]
  simp only [hlate]

end Engine
end AgentTool
