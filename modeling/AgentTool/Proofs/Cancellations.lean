import AgentTool.Proofs.InvocationTraces

/-!
# Invocations that are given up

A caller may give up at any wait of an invocation.  The run that the caller stops is compared with
the run of a caller who is patient, in the same world (`Run.Follows`):

| the caller | the two runs |
| --- | --- |
| stays through every wait | come to the same, in the same world |
| gives up at some wait | part there: the one is cancelled where the other goes on |

A run that goes on only adds to what has been told, sent and waited for (`World.Precedes`), so what
was told up to the parting is a beginning of the whole trace, and nothing is told late.  There is
one rule for each way to make a run out of smaller ones; a stop that is caught must leave a
cancellation alone (`Run.Follows.tryCatch`).
-/

namespace AgentTool

/-- The end of an invocation, one way or the other. -/
def Event.Fact.isEnd : Event.Fact → Bool
  | .cancelled _ | .completed .. => true
  | _ => false

/-- Limits under a caller who is patient. -/
def Limits.patient (l : Limits) : Limits := { l with cancels := fun _ _ => false }

/-- An invocation that has got from `w` to `w'` has told, sent and waited only more. -/
structure World.Precedes (id : String) (w w' : World) : Prop where
  told : ∃ t, Run.Told id t w w'
  sent : w.sent <+: w'.sent
  waits : w.waits ≤ w'.waits

/-- The world once an invocation has told a trace. -/
def World.tell (id : String) (t : List Event.Fact) (w : World) : World :=
  { w with events := w.events ++ t.map (Event.mk id) }

/-- The caller gives up at one of the waits between two worlds. -/
def World.GivesUp (cancels : Nat → Wait → Bool) (w w' : World) : Prop :=
  ∃ n, w.waits ≤ n ∧ n < w'.waits ∧ ∃ what, cancels n what = true

/-- The caller stays through each of the waits between two worlds. -/
def World.Stays (cancels : Nat → Wait → Bool) (w w' : World) : Prop :=
  ∀ n, w.waits ≤ n → n < w'.waits → ∃ what, cancels n what = false

section Worlds

variable {id : String} {cancels : Nat → Wait → Bool} {w w₁ w₂ : World}

namespace World

/-- Telling one trace after another is telling both at once. -/
theorem tell_tell (t u : List Event.Fact) : (w.tell id t).tell id u = w.tell id (t ++ u) := by
  simp [tell]

/-- A world precedes itself. -/
theorem Precedes.refl : w.Precedes id w := ⟨⟨[], .of_eq rfl⟩, List.prefix_rfl, Nat.le_refl _⟩

/-- A world that precedes another precedes what the other precedes. -/
theorem Precedes.trans (h : w.Precedes id w₁) (h' : w₁.Precedes id w₂) : w.Precedes id w₂ := by
  obtain ⟨t, ht⟩ := h.told
  obtain ⟨u, hu⟩ := h'.told
  exact ⟨⟨t ++ u, ht.trans hu⟩, h.sent.trans h'.sent, Nat.le_trans h.waits h'.waits⟩

/-- An invocation that tells a trace goes on. -/
theorem Precedes.tell (t : List Event.Fact) :
    w.Precedes id (w.tell id t) :=
  ⟨⟨t, rfl⟩, List.prefix_rfl, Nat.le_refl _⟩

/-- Who gives up before one world gives up before any later one. -/
theorem GivesUp.mono_right (h : GivesUp cancels w w₁) (h' : w₁.waits ≤ w₂.waits) :
    GivesUp cancels w w₂ := by
  obtain ⟨n, hn, hlt, hc⟩ := h
  exact ⟨n, hn, Nat.lt_of_lt_of_le hlt h', hc⟩

/-- Who gives up after one world gives up after any earlier one. -/
theorem GivesUp.mono_left (h : GivesUp cancels w₁ w₂) (h' : w.waits ≤ w₁.waits) :
    GivesUp cancels w w₂ := by
  obtain ⟨n, hn, hlt, hc⟩ := h
  exact ⟨n, Nat.le_trans h' hn, hlt, hc⟩

/-- Without a wait there is nothing to stay through. -/
theorem Stays.of_eq (h : w₁.waits = w.waits) : Stays cancels w w₁ := by
  intro n hn hlt
  omega

/-- Who stays through two stretches stays through both together. -/
theorem Stays.trans (h : Stays cancels w w₁) (h' : Stays cancels w₁ w₂) : Stays cancels w w₂ := by
  intro n hn hlt
  rcases Nat.lt_or_ge n w₁.waits with hn₁ | hn₁
  · exact h n hn hn₁
  · exact h' n hn₁ hlt

end World
end Worlds

namespace Run

variable {α β : Type} {id : String} {cancels : Nat → Wait → Bool} {w : World}

/-- Two worlds leave no doubt about what has been told from one to the other. -/
theorem Told.unique {t u : List Event.Fact} {w' : World} (ht : Told id t w w')
    (hu : Told id u w w') : t = u := by
  have hmk : Function.Injective (Event.mk id) := fun _ _ h => (Event.mk.inj h).2
  exact List.map_injective_iff.2 hmk (List.append_cancel_left (ht.symm.trans hu))

/-- What a run comes to from `w`, on the left, against what it comes to for a patient caller. -/
inductive Parts (id : String) (cancels : Nat → Wait → Bool) (w : World) :
    Except Stop α × World → Except Stop α × World → Prop where
  | stays {q} : w.Precedes id q.2 → w.Stays cancels q.2 → Parts id cancels w q q
  | leaves {w₁ q} : w.Precedes id w₁ → w₁.Precedes id q.2 → w.GivesUp cancels q.2 →
      Parts id cancels w (.error .cancelled, w₁) q

/-- From any world the run `x` goes the way of `y` until the caller gives up. -/
def Follows (id : String) (cancels : Nat → Wait → Bool) (x y : Run α) : Prop :=
  ∀ w, Parts id cancels w (x.exec w) (y.exec w)

/-- The patient caller's run goes on from where it starts. -/
theorem Parts.precedes {p q : Except Stop α × World} (h : Parts id cancels w p q) :
    w.Precedes id q.2 := by
  cases h with
  | stays h _ => exact h
  | leaves h h' _ => exact h.trans h'

namespace Follows

/-- A run without a wait goes its own way. -/
theorem self {x : Run α}
    (h : ∀ w, x.Meets w (fun _ w' => w.Precedes id w' ∧ w'.waits = w.waits) fun _ w' =>
      w.Precedes id w' ∧ w'.waits = w.waits) :
    Follows id cancels x x := by
  intro w
  have hw : w.Precedes id (x.exec w).2 ∧ (x.exec w).2.waits = w.waits := by
    have h := h w
    unfold Meets at h
    generalize x.exec w = q at h ⊢
    rcases q with ⟨s | a, w'⟩
    · exact h
    · exact h
  exact .stays hw.1 (.of_eq hw.2)

/-- A run that only returns goes on. -/
theorem pure {a : α} : Follows id cancels (Pure.pure a : Run α) (Pure.pure a) :=
  self fun _ => Meets.pure ⟨.refl, rfl⟩

/-- A run that only stops goes on to its stop. -/
theorem throw {s : Stop} :
    Follows id cancels (MonadExcept.throw s : Run α) (MonadExcept.throw s) :=
  self fun _ => ⟨.refl, rfl⟩

/-- A run that reports an event goes on. -/
theorem emit {fact : Event.Fact} : Follows id cancels (Run.emit id fact) (Run.emit id fact) :=
  self fun _ => ⟨.tell [fact], rfl⟩

/-- A run that sends a request goes on. -/
theorem exchange {url : Url} {s : Sent} :
    Follows id cancels (Run.exchange url s) (Run.exchange url s) :=
  self fun _ => Meets.exchange_sends
    ⟨⟨⟨[], .of_eq rfl⟩, List.prefix_append .., Nat.le_refl _⟩, rfl⟩

/-- At a wait the caller may give up, which a patient one does not. -/
theorem wait (limits : Limits) {what : Wait} {time : Duration} :
    Follows id limits.cancels (Run.wait limits what time) (Run.wait limits.patient what time) := by
  intro w
  have hp : ¬limits.patient.cancels w.waits what = true := Bool.false_ne_true
  have hd : limits.patient.deadline = limits.deadline := rfl
  rw [Run.exec_wait, Run.exec_wait, if_neg hp, hd]
  have hw : w.Precedes id (w.waited limits time) := ⟨⟨[], .of_eq rfl⟩, List.prefix_rfl, Nat.le_succ _⟩
  by_cases hc : limits.cancels w.waits what = true
  · have hg : w.GivesUp limits.cancels (w.waited limits time) :=
      ⟨w.waits, Nat.le_refl _, Nat.lt_succ_self _, what, hc⟩
    rw [if_pos hc]
    split
    · exact .leaves hw .refl hg
    · exact .leaves hw .refl hg
  · have hs : w.Stays limits.cancels (w.waited limits time) := by
      intro n hn hlt
      obtain rfl : n = w.waits := Nat.le_antisymm (Nat.le_of_lt_succ hlt) hn
      exact ⟨what, Bool.eq_false_iff.2 hc⟩
    rw [if_neg hc]
    split
    · exact .stays hw hs
    · exact .stays hw hs

/-- One run after another: once the caller has given up, nothing follows. -/
theorem bind {x y : Run α} {g g' : α → Run β} (hx : Follows id cancels x y)
    (hg : ∀ a, Follows id cancels (g a) (g' a)) : Follows id cancels (x >>= g) (y >>= g') := by
  intro w
  rw [exec_bind, exec_bind]
  have h := hx w
  generalize x.exec w = p at h ⊢
  generalize y.exec w = q at h ⊢
  cases h with
  | stays hw hs =>
    rcases p with ⟨s | a, w'⟩
    · exact .stays hw hs
    · have h := hg a w'
      simp only
      generalize (g a).exec w' = p at h ⊢
      generalize (g' a).exec w' = q at h ⊢
      cases h with
      | stays hw' hs' => exact .stays (hw.trans hw') (hs.trans hs')
      | leaves hw' hq hc => exact .leaves (hw.trans hw') hq (hc.mono_left hw.waits)
  | leaves hw hq hc =>
    rcases q with ⟨s | b, w'⟩
    · exact .leaves hw hq hc
    · have hq' := (hg b w').precedes
      exact .leaves hw (hq.trans hq') (hc.mono_right hq'.waits)

/-- A run that is taken up again after a stop, but not after a cancellation. -/
theorem tryCatch {x y : Run α} {g : Stop → Run α} (hx : Follows id cancels x y)
    (hc : g .cancelled = MonadExcept.throw .cancelled)
    (hd : Follows id cancels (g .deadline) (g .deadline)) :
    Follows id cancels (MonadExcept.tryCatch x g) (MonadExcept.tryCatch y g) := by
  have hg : ∀ s, Follows id cancels (g s) (g s)
    | .cancelled => hc ▸ throw
    | .deadline => hd
  intro w
  rw [exec_tryCatch, exec_tryCatch]
  have h := hx w
  generalize x.exec w = p at h ⊢
  generalize y.exec w = q at h ⊢
  cases h with
  | stays hw hs =>
    rcases p with ⟨s | a, w'⟩
    · have h := hg s w'
      simp only
      generalize (g s).exec w' = p at h ⊢
      cases h with
      | stays hw' hs' => exact .stays (hw.trans hw') (hs.trans hs')
      | leaves hw' hq hc => exact .leaves (hw.trans hw') hq (hc.mono_left hw.waits)
    · exact .stays hw hs
  | @leaves w₁ _ hw hq hu =>
    have hthrow : (g .cancelled).exec w₁ = (.error .cancelled, w₁) := by
      rw [hc]
      rfl
    simp only [hthrow]
    rcases q with ⟨s | b, w'⟩
    · have hq' := (hg s w').precedes
      exact .leaves hw (hq.trans hq') (hu.mono_right hq'.waits)
    · exact .leaves hw hq hu

/-- A report before another run. -/
theorem emit_bind {fact : Event.Fact} {g g' : Unit → Run β}
    (hg : Follows id cancels (g ()) (g' ())) :
    Follows id cancels (Run.emit id fact >>= g) (Run.emit id fact >>= g') :=
  emit.bind fun _ => hg

/-- A new state before another run. -/
theorem enter_bind {state : RunState} {g g' : Unit → Run β}
    (hg : Follows id cancels (g ()) (g' ())) :
    Follows id cancels (Run.enter id state >>= g) (Run.enter id state >>= g') := emit_bind hg

end Follows
end Run

/-! ## Calls -/

/-- The site of a call under a patient caller. -/
def CallSite.patient (site : CallSite) : CallSite := { site with limits := site.limits.patient }

/-- A patient caller's call has the same settings. -/
@[simp]
theorem CallSite.patient_config (site : CallSite) : site.patient.config = site.config := rfl

namespace Run

variable {site : CallSite} {r : Request}

/-- An attempt goes the way that it goes for a patient caller. -/
theorem attempt_follows {id : String} {config : Config} {limits : Limits} :
    Follows id limits.cancels (attempt config limits r) (attempt config limits.patient r) := by
  unfold attempt
  cases Sent.ofRequest config.userAgent r with
  | error e => exact .pure
  | ok sent => exact Follows.exchange.bind fun met => (Follows.wait limits).bind fun _ => .pure

/-- A reported attempt goes the way that it goes for a patient caller. -/
theorem attemptReported_follows (n : Nat) :
    Follows site.invocation site.limits.cancels (attemptReported site r n)
      (attemptReported site.patient r n) :=
  attempt_follows.bind fun _ => .emit_bind .pure

/-- A call makes the attempts that it makes for a patient caller, until its caller gives up. -/
theorem attemptsInFull_follows (n left : Nat) :
    Follows site.invocation site.limits.cancels (attemptsInFull site r n left)
      (attemptsInFull site.patient r n left) := by
  induction left generalizing n with
  | zero => exact (attemptReported_follows n).bind fun _ => .pure
  | succ left ih =>
    refine (attemptReported_follows n).bind fun result => ?_
    rcases result with e | reply
    · simp only [CallSite.patient_config]
      cases (RetryPolicy.ofConfig site.config).next? e n with
      | none => exact .pure
      | some delay => exact (Follows.wait site.limits).bind fun _ => ih (n + 1)
    · exact .pure

/-- A call goes the way that it goes for a patient caller. -/
theorem call_follows (site : CallSite) (h : Webhook) (scopes : Scopes) :
    Follows site.invocation site.limits.cancels (call site h scopes) (call site.patient h scopes) := by
  refine Follows.bind ?_ fun _ => .pure
  unfold callInFull
  cases h.prepare scopes with
  | error f => exact .pure
  | ok r => exact attemptsInFull_follows 0 _

end Run

/-! ## Runs -/

/-- What a run goes with under a patient caller. -/
def Engine.Frame.patient (f : Engine.Frame) : Engine.Frame :=
  { f with limits := f.limits.patient }

namespace Engine

variable {f : Frame}

/-- Rules wait for nothing. -/
theorem runRules_follows {cancels : Nat → Wait → Bool} :
    Run.Follows f.id cancels (runRules f) (runRules f) := by
  unfold runRules
  split
  · exact .pure
  cases f.map.matcher.evaluate? f.scopes with
  | some found => exact .emit_bind (.enter_bind (.enter_bind .pure))
  | none =>
    refine .emit_bind ?_
    split
    · exact .pure
    cases f.map.matcher.default? with
    | none => exact .pure
    | some found =>
      cases ho : found.2.rule.otherwise with
      | none =>
        simp only [ho]
        exact .pure
      | some o =>
        simp only [ho]
        exact .enter_bind .pure

/-- A webhook is run the way that it is run for a patient caller. -/
theorem runWebhook_follows (index : Nat) (h : Webhook) :
    Run.Follows f.id f.limits.cancels (runWebhook f index h) (runWebhook f.patient index h) := by
  have hcall : Run.Follows f.id f.limits.cancels
      (Run.call ⟨f.engine.config, f.limits, f.id, index⟩ h f.scopes)
      (Run.call ⟨f.engine.config, f.limits.patient, f.id, index⟩ h f.scopes) :=
    Run.call_follows ⟨f.engine.config, f.limits, f.id, index⟩ h f.scopes
  refine hcall.bind fun result => ?_
  rcases result with last | ⟨status, body⟩
  · exact .pure
  · exact .pure

/-- Webhooks are run the way that they are run for a patient caller. -/
theorem runWebhooks_follows (index : Nat) (invoked : Bool) (last : LastFailure)
    (hs : List Webhook) :
    Run.Follows f.id f.limits.cancels (runWebhooks f index invoked last hs)
      (runWebhooks f.patient index invoked last hs) := by
  induction hs generalizing index invoked last with
  | nil => exact .pure
  | cons h hs ih =>
    by_cases hl : f.Lacks h
    · have hl' : f.patient.Lacks h := hl
      rw [runWebhooks_skip hl, runWebhooks_skip hl']
      exact .emit_bind (ih (index + 1) invoked ⟨.missingArguments, none⟩)
    · have hl' : ¬f.patient.Lacks h := hl
      have hcall : Run.Follows f.id f.limits.cancels
          (runWebhook f index h >>= afterCall f index hs)
          (runWebhook f.patient index h >>= afterCall f.patient index hs) := by
        refine (runWebhook_follows index h).bind fun result => ?_
        rcases result with last | answer
        · exact .emit_bind (ih (index + 1) true last)
        · exact .enter_bind .pure
      rw [runWebhooks_cons hl, runWebhooks_cons hl']
      cases invoked
      · exact .enter_bind hcall
      · exact hcall

/-- A data map is run the way that it is run for a patient caller. -/
theorem runMap_follows :
    Run.Follows f.id f.limits.cancels (runMap f) (runMap f.patient) := by
  refine runRules_follows.bind fun found => ?_
  cases found with
  | some answer => exact .pure
  | none =>
    refine (runWebhooks_follows 0 false ⟨.noMatch, none⟩ f.map.webhooks).bind fun result => ?_
    cases result with
    | ok answer => exact .pure
    | error last => exact .enter_bind .pure

/-- A data map under a deadline is run the way that it is run for a patient caller. -/
theorem runInTime_follows :
    Run.Follows f.id f.limits.cancels (runInTime f) (runInTime f.patient) :=
  runMap_follows.tryCatch rfl (.enter_bind .pure)

section Invocations

variable {e : Engine} {i : Invocation} {id : String}

/-- A tool answers the way that it answers a patient caller. -/
theorem answer_follows (limits : Limits) :
    Run.Follows id limits.cancels (e.answer limits id i) (e.answer limits.patient id i) := by
  unfold answer
  cases e.registry.get? i.tool with
  | none => exact .pure
  | some tool =>
    cases hr : tool.runtime with
    | localWebhook url =>
      simp only [hr]
      exact .pure
    | dataMap m =>
      simp only [hr]
      exact runInTime_follows (f := ⟨e, limits, id, m, i.scopes⟩)

/-- An invocation from its start up to its answer. -/
def opening (e : Engine) (cancels : Nat → Wait → Bool) (id : String) (i : Invocation) :
    Run Answer := do
  Run.wait { cancels } .start (.ofNanos 0)
  Run.emit id (.started i.tool)
  Run.enter id .received
  e.answer { deadline := e.config.deadline, cancels } id i

/-- An invocation from its answer to its end. -/
def closing (e : Engine) (id : String) (i : Invocation) (a : Answer) : Run InvocationResult := do
  Run.enter id .completed
  let millis := (← get).elapsed.millis
  Run.emit id (.completed i.tool a.2 millis)
  return { id, tool := i.tool, output := e.presentable a.1, outcome := a.2, millis }

/-- The end of an invocation is only reported. -/
theorem closing_exec (a : Answer) (w : World) :
    (e.closing id i a).exec w =
      (.ok { id, tool := i.tool, output := e.presentable a.1, outcome := a.2
             millis := w.elapsed.millis },
        w.tell id [.stateChanged .completed, .completed i.tool a.2 w.elapsed.millis]) := by
  have htell : (w.tell id [.stateChanged .completed]).tell id
      [.completed i.tool a.2 w.elapsed.millis] =
        w.tell id [.stateChanged .completed, .completed i.tool a.2 w.elapsed.millis] :=
    World.tell_tell _ _
  rw [← htell]
  rfl

/-- Once there is an answer nothing stops an invocation any more. -/
theorem invoke?_opening (cancels : Nat → Wait → Bool) (w : World) :
    (e.invoke? cancels id i).run w =
      match (e.opening cancels id i).exec w.restarted with
      | (.ok a, w') =>
        (some { id, tool := i.tool, output := e.presentable a.1, outcome := a.2
                millis := w'.elapsed.millis },
          w'.tell id [.stateChanged .completed, .completed i.tool a.2 w'.elapsed.millis])
      | (.error _, w') => (none, w'.tell id [.cancelled i.tool]) := by
  rw [invoke?_run, opening, Run.exec_bind, Run.exec_bind]
  rcases (Run.wait { cancels } .start (.ofNanos 0)).exec w.restarted with ⟨s | _, w₁⟩
  · rfl
  let begun : World := (w₁.tell id [.started i.tool]).tell id [.stateChanged .received]
  let limits : Limits := { deadline := e.config.deadline, cancels }
  have hrun : (e.run limits id i).exec w₁ =
      (e.answer limits id i >>= e.closing id i).exec begun := rfl
  have hopen : (do
      Run.emit id (.started i.tool)
      Run.enter id .received
      e.answer limits id i).exec w₁ = (e.answer limits id i).exec begun := rfl
  simp only
  rw [hrun, hopen, Run.exec_bind]
  rcases (e.answer limits id i).exec begun with ⟨s | a, w₂⟩
  · rfl
  · simp only [closing_exec]

/-- The last that an invocation with a result tells is its end, with the outcome and the time of the
result. -/
theorem invoke?_getLast {cancels : Nat → Wait → Bool} {w w' : World} {r : InvocationResult}
    (h : (e.invoke? cancels id i).run w = (some r, w')) :
    w'.events.getLast? = some ⟨id, .completed i.tool r.outcome r.millis⟩ := by
  rw [invoke?_opening] at h
  split at h
  · obtain ⟨hr, rfl⟩ := Prod.mk.inj h
    obtain rfl := Option.some.inj hr
    simp [World.tell]
  · cases h

/-- An invocation goes the way to its answer that it goes for a patient caller. -/
theorem opening_follows (e : Engine) (i : Invocation) (id : String) (cancels : Nat → Wait → Bool) :
    Run.Follows id cancels (e.opening cancels id i) (e.opening (fun _ _ => false) id i) := by
  refine Run.Follows.bind (Run.Follows.wait { cancels }) fun _ => ?_
  refine .emit_bind (.enter_bind ?_)
  exact answer_follows { deadline := e.config.deadline, cancels }

/-- A beginning of a trace that is not the whole of it tells of no end. -/
theorem IsTraceOf.isEnd_eq_false {hs : List Webhook} {args : Json} {tool : String}
    {outcome : Outcome} {begun rest : List Event.Fact}
    (h : IsTraceOf hs args tool outcome (begun ++ rest)) (hr : rest ≠ []) :
    ∀ fact ∈ begun, fact.isEnd = false := by
  obtain ⟨between, millis, ht, hb⟩ := h.bounds
  rw [← List.dropLast_append_getLast hr, ← List.append_assoc] at ht
  obtain ⟨ht, -⟩ := List.append_inj' ht rfl
  suffices hall : ∀ fact ∈ Event.Fact.started tool :: between, fact.isEnd = false by
    intro fact hf
    exact hall fact (ht ▸ List.mem_append_left _ hf)
  refine List.forall_mem_cons.2 ⟨rfl, fun fact hf => ?_⟩
  have := hb fact hf
  cases fact with
  | cancelled | completed => cases this
  | _ => rfl

/-- **A caller who gives up abandons an invocation cleanly.**  The invocation has a result and tells
a trace for a patient caller.  For any other it comes to the same in the same world, if the caller
stays through all its waits; or the caller gives up at one of them.  Then there is no result,
nothing has been sent that is not sent else, and what has been told is a beginning of the trace,
without an end, and the cancellation. -/
theorem invoke?_abandons (e : Engine) (i : Invocation) (id : String) (w : World) :
    ∃ r w₀ t, (e.invoke? (fun _ _ => false) id i).run w = (some r, w₀) ∧
      w₀.events = w.events ++ t.map (Event.mk id) ∧
      ∀ cancels, match (e.invoke? cancels id i).run w with
        | (some r', w') => r' = r ∧ w' = w₀ ∧ ∀ n < w₀.waits, ∃ what, cancels n what = false
        | (none, w') => (∃ n < w₀.waits, ∃ what, cancels n what = true) ∧ w'.sent <+: w₀.sent ∧
          ∃ begun rest, t = begun ++ rest ∧ (∀ fact ∈ begun, fact.isEnd = false) ∧
            w'.events = w.events ++ (begun ++ [.cancelled i.tool]).map (Event.mk id) := by
  obtain ⟨r, w₀, h₀⟩ := exists_invoke?_eq_some e i id w
  have htells := invoke?_tells e i id (fun _ _ => false) w
  rw [h₀] at htells
  obtain ⟨-, -, t, ht, htrace⟩ := htells
  refine ⟨r, w₀, t, h₀, ht, fun cancels => ?_⟩
  rw [invoke?_opening] at h₀ ⊢
  have hf := opening_follows e i id cancels w.restarted
  generalize (e.opening cancels id i).exec w.restarted = p at hf ⊢
  generalize (e.opening (fun _ _ => false) id i).exec w.restarted = q at hf h₀
  -- the patient caller's invocation has got an answer, as it has a result
  rcases q with ⟨s | a, w₂⟩
  · cases h₀
  obtain ⟨hr, rfl⟩ := Prod.mk.inj h₀
  obtain rfl := Option.some.inj hr
  cases hf with
  | stays _ hs => exact ⟨rfl, rfl, fun n hn => hs n (Nat.zero_le _) hn⟩
  | @leaves w₁ _ hw hq hc =>
    obtain ⟨n, -, hn, hc⟩ := hc
    obtain ⟨begun, hbegun⟩ := hw.told
    obtain ⟨v, hv⟩ := hq.told
    let closing : List Event.Fact :=
      [.stateChanged .completed, .completed i.tool a.2 w₂.elapsed.millis]
    have hclosing : Run.Told id closing w₂ (w₂.tell id closing) := rfl
    obtain rfl : t = begun ++ v ++ closing :=
      Run.Told.unique ht ((hbegun.trans hv).trans hclosing)
    refine ⟨⟨n, hn, hc⟩, hq.sent, begun, v ++ closing, List.append_assoc .., ?ends, ?told⟩
    case ends =>
      rw [List.append_assoc] at htrace
      exact htrace.isEnd_eq_false (by simp [closing])
    case told => exact hbegun.trans rfl

end Invocations
end Engine
end AgentTool
