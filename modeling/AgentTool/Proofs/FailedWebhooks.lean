import AgentTool.Proofs.Orchestration

/-!
# Behind webhooks that have failed

A run comes to a webhook once all webhooks before it have failed, in whatever way they have:

| what has happened before | what is left of it |
| --- | --- |
| replies have been taken | the network with the others |
| failures have been reported | events |
| a call has been made | whether the state of calling has been reported |
| a webhook has failed | the last failure, until this webhook fails or gives an output |

The webhook is then called with the request that it makes in the scopes of the invocation, and what
the run makes of the result is settled (`runWebhooks_behind`).  So two runs that come to a webhook
make the same request there, and answer alike if its call comes to the same
(`runMap_behind_failures`).
-/

namespace AgentTool

namespace Run

variable {α β : Type} {x y z : Run α} {w : World} {n n' : Network} {limits : Limits}

/-- A run is stopped under limits that are not open, or goes on in the network `n` as another run.
-/
def GoesOn (x : Run α) (w : World) (limits : Limits) (n : Network) (y : Run α) : Prop :=
  (¬limits.IsOpen ∧ ∃ stop w', x.exec w = (.error stop, w')) ∨
    ∃ v, v.network = n ∧ x.exec w = y.exec v

namespace GoesOn

/-- A run that goes as another from another world goes on as the other. -/
theorem of_exec_eq {v : World} (h : x.exec w = y.exec v) : x.GoesOn w limits v.network y :=
  .inr ⟨v, rfl, h⟩

/-- A run that goes on as another goes on as the other in front of any run. -/
theorem bind (h : x.GoesOn w limits n y) (g : α → Run β) :
    (x >>= g).GoesOn w limits n (y >>= g) := by
  rcases h with ⟨ho, stop, w', h⟩ | ⟨v, hv, h⟩
  · refine .inl ⟨ho, stop, w', ?_⟩
    rw [exec_bind, h]
  · refine .inr ⟨v, hv, ?_⟩
    rw [exec_bind, exec_bind, h]

/-- What is known of a run in its network is known of the run that goes on as it. -/
theorem trans (h : x.GoesOn w limits n y) (hy : ∀ v, v.network = n → y.GoesOn v limits n' z) :
    x.GoesOn w limits n' z := by
  rcases h with hs | ⟨v, hv, h⟩
  · exact .inl hs
  · unfold GoesOn
    rw [h]
    exact hy v hv

/-- A run goes on as what follows its first part, unless this is stopped. -/
theorem of_meets {x : Run β} {g : β → Run α} {Q : β → World → Prop}
    (hx : x.Meets w Q fun _ _ => ¬limits.IsOpen)
    (h : ∀ b v, Q b v → (g b).GoesOn v limits n y) : (x >>= g).GoesOn w limits n y := by
  unfold Meets at hx
  rcases he : x.exec w with ⟨stop | b, v⟩
  · rw [he] at hx
    exact .inl ⟨hx, stop, v, by rw [exec_bind, he]⟩
  · rw [he] at hx
    unfold GoesOn
    rw [exec_bind, he]
    exact h b v hx

end GoesOn
end Run

namespace Engine

variable {f : Frame} {n n' : Network} {h : Webhook}

/-- What has failed up to a position has failed up to any before it. -/
theorem Frame.Failed.before {k index : Nat} {last : LastFailure} (hf : f.Failed n k last n')
    (hi : index ≤ k) : ∃ last₁ n₁, f.Failed n index last₁ n₁ := by
  induction hf with
  | start =>
    obtain rfl := Nat.le_zero.1 hi
    exact ⟨_, _, .start⟩
  | next hf hh hfails ih =>
    rcases Nat.le_or_eq_of_le_succ hi with hi | rfl
    · exact ih hi
    · exact ⟨_, _, hf.next hh hfails⟩

/-- **A run of webhooks comes to the one behind those that fail** and goes on with its call.  `hs`
are the webhooks from `index` on. -/
theorem runWebhooks_behind {k index : Nat} {invoked : Bool} {last last' : LastFailure}
    {hs : List Webhook} {w : World} (hd : f.map.webhooks.drop index = hs)
    (hw : f.Failed n index last w.network) (hi : index ≤ k) (hf : f.Failed n k last' n')
    (hh : f.map.webhooks[k]? = some h) (hl : ¬f.Lacks h) :
    (runWebhooks f index invoked last hs).GoesOn w f.limits n'
      (runWebhook f k h >>= afterCall f k (f.map.webhooks.drop (k + 1))) := by
  induction hs generalizing w index invoked last with
  | nil =>
    have hlt := (List.getElem?_eq_some_iff.1 hh).1
    have hle := List.drop_eq_nil_iff.1 hd
    omega
  | cons g hs ih =>
    obtain ⟨hg, hd'⟩ := getElem?_of_drop hd
    rcases Nat.eq_or_lt_of_le hi with rfl | hlt
    · -- the turn of the webhook itself
      obtain ⟨-, rfl⟩ := hw.unique hf
      obtain rfl := Option.some.inj (hg.symm.trans hh)
      rw [runWebhooks_cons hl, hd']
      cases invoked
      · exact .of_exec_eq
          (v := { w with events := w.events ++ [⟨f.id, .stateChanged .invokedWebhook⟩] }) rfl
      · exact .of_exec_eq rfl
    · -- a webhook before it, which fails
      obtain ⟨last₁, n₁, hnext⟩ := hf.before hlt
      obtain _ | ⟨hw', hg', hfails⟩ := hnext
      obtain ⟨rfl, rfl⟩ := hw'.unique hw
      obtain rfl := Option.some.inj (hg.symm.trans hg')
      by_cases hlg : f.Lacks g
      · rw [runWebhooks_skip hlg]
        exact ih (w := { w with events := w.events ++ [⟨f.id, .webhookFailed index .missingArguments⟩] })
          hd' (hw.next hg (.skipped hlg)) hlt
      · have hcall : ∀ w₁ : World, w₁.network = w.network →
            (runWebhook f index g >>= afterCall f index hs).GoesOn w₁ f.limits n'
              (runWebhook f k h >>= afterCall f k (f.map.webhooks.drop (k + 1))) := by
          intro w₁ hn
          refine .of_meets (runWebhook_meets hlg) ?_
          rw [hn]
          rintro (last'' | a) v ⟨-, hr⟩
          · exact ih
              (w := { v with events := v.events ++ [⟨f.id, .webhookFailed index last''.failure⟩] })
              hd' (hw.next hg hr) hlt
          · obtain ⟨status, -, hgives⟩ := hr
            exact (hfails.not_gives hgives).elim
        rw [runWebhooks_cons hlg]
        cases invoked
        · exact hcall { w with events := w.events ++ [⟨f.id, .stateChanged .invokedWebhook⟩] } rfl
        · exact hcall w rfl

/-! ## The run of a map -/

/-- In the network `n` a run comes to the webhook `h` at position `k`: no rule matches, all webhooks
before it fail, in any way, and they leave the network `n'`. -/
structure Frame.Reaches (f : Frame) (n : Network) (k : Nat) (h : Webhook) (n' : Network) : Prop where
  unmatched : f.Unmatched
  failed : ∃ last, f.Failed n k last n'
  webhook : f.map.webhooks[k]? = some h

/-- Rules of which none matches leave it to the webhooks, if there are any. -/
theorem runRules_unmatched {w : World} {S : Stop → World → Prop} (hu : f.Unmatched)
    (hw : f.map.webhooks ≠ []) :
    (runRules f).Meets w (fun answer? w' => answer? = none ∧ w'.network = w.network) S := by
  unfold runRules
  by_cases hm : f.map.matcher.isEmpty = true
  · rw [if_pos hm]
    exact Run.Meets.pure ⟨rfl, rfl⟩
  rw [if_neg hm]
  cases he : f.map.matcher.evaluate? f.scopes with
  | some found =>
    have hfirst := Matcher.isFirst_of_firstIndexed? he
    exact absurd hfirst.2.1 (hu _ hfirst.mem)
  | none =>
    refine Run.Meets.emit_bind ?_
    rw [if_pos (by simpa using hw)]
    exact Run.Meets.pure ⟨rfl, rfl⟩

/-- What a webhook makes of the result of its call. -/
def judged (f : Frame) (k : Nat) (h : Webhook) :
    Except CallFailure (Nat × Json) → Except LastFailure Answer
  | .error last => .error last
  | .ok (status, body) =>
    match f.projected h body with
    | .ok out => .ok (out, .webhook k status)
    | .error failure => .error ⟨failure, some body⟩

/-- What a run makes of the result of a call: the answer, or what the webhooks behind it and the
fallback come to. -/
def onward (f : Frame) (k : Nat) (h : Webhook) (result : Except CallFailure (Nat × Json)) :
    Run Answer := do
  match ← afterCall f k (f.map.webhooks.drop (k + 1)) .standard (judged f k h result) with
  | .ok answer => return answer
  | .error last =>
    Run.enter f.id .projected
    return f.engine.fallback f.map f.scopes last

/-- **A run that comes to a webhook makes its request in the scopes of the invocation.** -/
theorem runMap_reaches {k : Nat} {w : World} (hr : f.Reaches w.network k h n') (hl : ¬f.Lacks h) :
    (runMap f).GoesOn w f.limits n'
      (Run.call ⟨f.engine.config, f.limits, f.id, k⟩ h f.scopes >>= onward f k h) := by
  obtain ⟨hu, ⟨last, hf⟩, hh⟩ := hr
  have hne : f.map.webhooks ≠ [] := by
    intro he
    simp [he] at hh
  have hcall : Run.call ⟨f.engine.config, f.limits, f.id, k⟩ h f.scopes >>= onward f k h =
      (runWebhook f k h >>= afterCall f k (f.map.webhooks.drop (k + 1))) >>= fun
        | .ok answer => return answer
        | .error last => do
          Run.enter f.id .projected
          return f.engine.fallback f.map f.scopes last := by
    unfold runWebhook
    simp only [bind_assoc]
    congr 1
    funext result
    rcases result with last | ⟨status, body⟩
    · rfl
    · simp only [pure_bind]
      rfl
  rw [hcall]
  unfold runMap
  refine .of_meets (runRules_unmatched hu hne) ?_
  rintro _ v ⟨rfl, hn⟩
  rw [← hn] at hf
  exact (runWebhooks_behind List.drop_zero .start (Nat.zero_le k) hf hh hl).bind _

/-- A run that comes to a webhook which gives an output answers with it. -/
theorem runMap_gives {k status : Nat} {w : World} {out : Rendered} {n₁ : Network}
    (hr : f.Reaches w.network k h n₁) (hg : f.Gives h n₁ status out n') :
    (runMap f).GoesOn w f.limits n' (return (out, .webhook k status)) := by
  obtain ⟨hu, ⟨last, hf⟩, hh⟩ := hr
  have hm := runMap_meets (f := f) (w := w)
  unfold Run.Meets at hm
  rcases he : (runMap f).exec w with ⟨stop | a, w'⟩
  · rw [he] at hm
    exact .inl ⟨hm, stop, w', he⟩
  · rw [he] at hm
    obtain ⟨rfl, hn⟩ := hm.1.unique (.webhook hu hf hh hg)
    exact .inr ⟨w', hn, he⟩

/-- A call comes to the same in two networks if its attempts end alike in both. -/
theorem Frame.Calls.of_endings {n₁ n₂ n₁' : Network} {result : Except CallFailure (Nat × Json)}
    (hc : f.Calls h n₁ result n₁')
    (he : ∀ r, h.prepare f.scopes = .ok r →
      n₁.ending f.engine.config r = n₂.ending f.engine.config r) :
    ∃ n₂', f.Calls h n₂ result n₂' := by
  unfold Calls at hc ⊢
  cases hp : h.prepare f.scopes with
  | error reason =>
    rw [hp] at hc
    exact ⟨n₂, hc.1, rfl⟩
  | ok r =>
    rw [hp] at hc
    obtain ⟨j, hlast, hresult, -⟩ := hc
    rw [he r hp] at hlast hresult
    exact ⟨_, j, hlast, hresult, rfl⟩

/-- **Webhooks that have failed do not influence later ones.**  Two runs of a map, for the same
arguments and variables in any two worlds, come to a webhook, all before it having failed in each of
them in any way.  If the webhook has its arguments, both runs go on alike: they make the attempts at
the one request that the webhook makes in the scopes of the invocation, or have none, and do the
same with the result.  If the call comes to the same in both, as it does if its attempts end alike,
and the webhook gives an output in the first, then both runs answer with this output and its
outcome.  Either run may be stopped before, but only by its limits. -/
theorem runMap_behind_failures (e : Engine) (limits : Limits) (id : String) (m : ReadyMap)
    (args global : Json) (k : Nat) (h : Webhook) (w₁ w₂ : World) (n₁ n₂ : Network) :
    let f : Frame := ⟨e, limits, id, m, Scopes.forInvocation args global⟩
    let called : Run (Except CallFailure (Nat × Json)) :=
      match h.prepare (Scopes.forInvocation args global) with
      | .error reason => return .error ⟨reason, none⟩
      | .ok r => Run.attempts ⟨e.config, limits, id, k⟩ r 0 (RetryPolicy.ofConfig e.config).retries
    f.Reaches w₁.network k h n₁ → f.Reaches w₂.network k h n₂ →
      (f.Lacks h ∨ (runMap f).GoesOn w₁ limits n₁ (called >>= onward f k h) ∧
        (runMap f).GoesOn w₂ limits n₂ (called >>= onward f k h)) ∧
      (∀ result n₁' n₂', f.Calls h n₁ result n₁' → f.Calls h n₂ result n₂' →
        ∀ status out n', f.Gives h n₁ status out n' →
          (runMap f).GoesOn w₁ limits n₁' (return (out, .webhook k status)) ∧
          (runMap f).GoesOn w₂ limits n₂' (return (out, .webhook k status))) ∧
      ((∀ r, h.prepare (Scopes.forInvocation args global) = .ok r →
          n₁.ending e.config r = n₂.ending e.config r) →
        ∀ result n₁', f.Calls h n₁ result n₁' → ∃ n₂', f.Calls h n₂ result n₂') := by
  intro f called hr₁ hr₂
  refine ⟨?_, fun result n₁' n₂' hc₁ hc₂ status out n' hg₁ => ?_, fun he _ _ hc => hc.of_endings he⟩
  · by_cases hl : f.Lacks h
    · exact .inl hl
    · have hcalled : Run.call ⟨f.engine.config, f.limits, f.id, k⟩ h f.scopes = called :=
        Run.call_eq h f.scopes
      rw [← hcalled]
      exact .inr ⟨runMap_reaches hr₁ hl, runMap_reaches hr₂ hl⟩
  · obtain ⟨hl, hc, hp⟩ := hg₁
    obtain ⟨rfl, -⟩ := hc.unique hc₁
    exact ⟨runMap_gives hr₁ ⟨hl, hc₁, hp⟩, runMap_gives hr₂ ⟨hl, hc₂, hp⟩⟩

/-! ### Two failures of different kinds -/

/-- A call leaves the addresses in reach as they are. -/
theorem Frame.Calls.reaches {result : Except CallFailure (Nat × Json)}
    (hc : f.Calls h n result n') : n'.reaches = n.reaches := by
  unfold Calls at hc
  cases hp : h.prepare f.scopes with
  | error reason =>
    rw [hp] at hc
    rw [hc.2]
  | ok r =>
    rw [hp] at hc
    obtain ⟨j, -, -, rfl⟩ := hc
    generalize j + 1 = i
    induction i with
    | zero => rfl
    | succ i ih =>
      rw [Network.after, Function.iterate_succ_apply', Network.attempt_reaches]
      exact ih

/-- A webhook that fails leaves the addresses in reach as they are. -/
theorem Frame.Fails.reaches {last : LastFailure} (hf : f.Fails h n last n') :
    n'.reaches = n.reaches := by
  cases hf with
  | skipped => rfl
  | call _ hc => exact hc.reaches
  | projection _ hc _ => exact hc.reaches

/-- What a webhook has come to in a run, it comes to in the network. -/
theorem exec_runWebhook {k : Nat} {w w' : World} {result : Except LastFailure Answer}
    (hl : ¬f.Lacks h) (hx : (runWebhook f k h).exec w = (.ok result, w')) :
    match result with
    | .ok a => ∃ status, a.2 = .webhook k status ∧ f.Gives h w.network status a.1 w'.network
    | .error last => f.Fails h w.network last w'.network := by
  have hm : (runWebhook f k h).Meets w _ _ := runWebhook_meets hl
  unfold Run.Meets at hm
  rw [hx] at hm
  cases result with
  | error last => exact hm.2
  | ok a => exact hm.2

/-- A webhook whose output is of no interest. -/
def failingWebhook : Webhook := { url := "http://a/x", output := some { response := "first" } }

/-- A webhook that puts out a value of its reply. -/
def valueWebhook : Webhook := { url := "http://b/x", output := some { response := "${response.v}" } }

/-- A run of the two webhooks, without rules. -/
def valueFrame : Frame where
  engine := { config := {}, registry := .empty }
  limits := {}
  id := ""
  map := {
    matcher := []
    webhooks := [failingWebhook, valueWebhook]
    fallback := none
    errorKeys := ["error"] }
  scopes := Scopes.forInvocation (.obj []) (.obj [])

/-- A network with a value in store. -/
def valueNetwork : Network where
  reaches _ := true
  replies := [{ reply := .answer 200 none (Text.utf8 "\x7b\"v\":1\x7d".toList) true }]

/-- A world with a reply in store before this value. -/
def replyThenValue (reply : Reply) : World where
  network := { valueNetwork with replies := { reply } :: valueNetwork.replies }

/-- The replies that a webhook leaves if it fails. -/
def repliesBehind? : Except Stop (Except LastFailure Answer) × World → Option (List Arrival)
  | (.ok (.error _), v) => some v.network.replies
  | _ => none

/-- The response and the status of the webhook that gives it. -/
def webhookResponse? : Except Stop (Except LastFailure Answer) × World → Option (String × Nat)
  | (.ok (.ok (out, .webhook _ status)), _) => some (out.response, status)
  | _ => none

/-- A reply for which the first webhook fails, and which is then gone. -/
theorem reaches_valueWebhook {reply : Reply}
    (hx : repliesBehind? ((runWebhook valueFrame 0 failingWebhook).exec (replyThenValue reply)) =
      some valueNetwork.replies) :
    valueFrame.Reaches (replyThenValue reply).network 1 valueWebhook valueNetwork := by
  rcases he : (runWebhook valueFrame 0 failingWebhook).exec (replyThenValue reply) with
    ⟨_ | last | _, ⟨⟨reaches, replies⟩, _, _, _, _⟩⟩ <;> rw [he] at hx
  · cases hx
  · have hfails := exec_runWebhook (by simp [Frame.Lacks, failingWebhook]) he
    obtain rfl : replies = valueNetwork.replies := Option.some.inj hx
    obtain rfl : reaches = valueNetwork.reaches := hfails.reaches
    exact ⟨fun _ hr => absurd hr List.not_mem_nil, ⟨last, .next .start rfl hfails⟩, rfl⟩
  · cases hx

/-- Behind a webhook that was not found and behind one whose reply was an error, a run answers with
the output of the next one. -/
theorem output_behind_failures :
    let w₁ := replyThenValue (.answer 404 none [] true)
    let w₂ := replyThenValue (.answer 200 none (Text.utf8 "\x7b\"error\":1\x7d".toList) true)
    valueFrame.Reaches w₁.network 1 valueWebhook valueNetwork ∧
      valueFrame.Reaches w₂.network 1 valueWebhook valueNetwork ∧
      ∃ out, out.response = "1" ∧
        (∃ w₁', (runMap valueFrame).exec w₁ = (.ok (out, .webhook 1 200), w₁')) ∧
        ∃ w₂', (runMap valueFrame).exec w₂ = (.ok (out, .webhook 1 200), w₂') := by
  intro w₁ w₂
  have hr₁ : valueFrame.Reaches w₁.network 1 valueWebhook valueNetwork :=
    reaches_valueWebhook (by decide +kernel)
  have hr₂ : valueFrame.Reaches w₂.network 1 valueWebhook valueNetwork :=
    reaches_valueWebhook (by decide +kernel)
  have hvalue : webhookResponse? ((runWebhook valueFrame 1 valueWebhook).exec
      { network := valueNetwork }) = some ("1", 200) := by
    decide +kernel
  have hopen : ∀ {x : Run Answer} {w : World} {n : Network} {a : Answer},
      x.GoesOn w valueFrame.limits n (return a) → ∃ w', x.exec w = (.ok a, w') := by
    rintro x w n a (⟨ho, -⟩ | ⟨v, -, hx⟩)
    · exact absurd ⟨rfl, fun _ _ => rfl⟩ ho
    · exact ⟨v, hx⟩
  rcases he : (runWebhook valueFrame 1 valueWebhook).exec { network := valueNetwork } with
    ⟨_ | _ | ⟨out, outcome⟩, v⟩ <;> rw [he] at hvalue
  · cases hvalue
  · cases hvalue
  obtain ⟨status, ho, hg⟩ := exec_runWebhook (by simp [Frame.Lacks, valueWebhook]) he
  obtain rfl : outcome = .webhook 1 status := ho
  obtain ⟨hresponse, rfl⟩ := Prod.mk.inj (Option.some.inj hvalue)
  obtain ⟨-, hc, -⟩ := id hg
  obtain ⟨-, halike, -⟩ := runMap_behind_failures valueFrame.engine {} "" valueFrame.map (.obj [])
    (.obj []) 1 valueWebhook w₁ w₂ valueNetwork valueNetwork hr₁ hr₂
  obtain ⟨hgoes₁, hgoes₂⟩ := halike _ _ _ hc hc _ _ _ hg
  exact ⟨hr₁, hr₂, out, hresponse, hopen hgoes₁, hopen hgoes₂⟩

end Engine
end AgentTool
