import AgentTool.Proofs.Answers
import AgentTool.Proofs.StrictTemplates

/-!
# What a run reads

Whatever expands templates takes a reading, and comes to the same under any reading that is right
where it reads; that a run does is `Engine.runInTime_of_suits`.  `Engine.Frame.Reads` collects where
the run of a data map reads: every template, with the scopes in which it is expanded.

| template | scopes |
| --- | --- |
| subject and outputs of a rule | those of the invocation |
| address, headers and parameters of a webhook | those of the invocation |
| text for an item | those of the reply with the item |
| output of a webhook | those of the reply with the text of its items |
| fallback | those of the last failure |
-/

namespace AgentTool

/-- A reading reads a template in scopes as the standard reading does. -/
def Reading.IsRightAt (R : Reading) (template : String) (scopes : Scopes) : Prop :=
  R.text template scopes = Reading.standard.text template scopes ∧
    R.address template scopes = Reading.standard.address template scopes

/-! ## Values -/

section Values

variable {f g : String → String}

mutual

/-- Replacements that agree on the texts of a value replace it by the same. -/
theorem Json.mapTexts_congr : (v : Json) → (∀ s, v.HasText s → f s = g s) →
    v.mapTexts f = v.mapTexts g
  | .null, _ | .bool _, _ | .int _, _ | .float _, _ => rfl
  | .str s, h => by rw [Json.mapTexts, Json.mapTexts, h s .here]
  | .arr items, h => by
    rw [Json.mapTexts, Json.mapTexts,
      mapItemTexts_congr items fun v hv s hs => h s (.item hv hs)]
  | .obj es, h => by
    rw [Json.mapTexts, Json.mapTexts,
      mapEntryTexts_congr es fun e he s hs => h s (.entry he hs)]

/-- `mapTexts_congr` on the items of an array. -/
theorem Json.mapItemTexts_congr : (vs : List Json) →
    (∀ v ∈ vs, ∀ s, v.HasText s → f s = g s) → mapItemTexts f vs = mapItemTexts g vs
  | [], _ => rfl
  | v :: vs, h => by
    rw [Json.mapItemTexts, Json.mapItemTexts, v.mapTexts_congr (h v List.mem_cons_self),
      mapItemTexts_congr vs fun u hu => h u (List.mem_cons_of_mem v hu)]

/-- `mapTexts_congr` on the values of entries. -/
theorem Json.mapEntryTexts_congr : (es : List (String × Json)) →
    (∀ e ∈ es, ∀ s, e.2.HasText s → f s = g s) → mapEntryTexts f es = mapEntryTexts g es
  | [], _ => rfl
  | (k, v) :: es, h => by
    rw [Json.mapEntryTexts, Json.mapEntryTexts, v.mapTexts_congr (h (k, v) List.mem_cons_self),
      mapEntryTexts_congr es fun e he => h e (List.mem_cons_of_mem (k, v) he)]

end

end Values

variable {R : Reading} {scopes : Scopes}

/-! ## Outputs and rules -/

/-- The templates of an output. -/
inductive Output.HasText (o : Output) : String → Prop where
  | response : o.HasText o.response
  | action {a : Json} {s : String} : a ∈ o.actions → a.HasText s → o.HasText s

/-- An output is rendered alike by a reading that is right at its templates. -/
theorem Output.render_of_isRight {o : Output} (h : ∀ s, o.HasText s → R.IsRightAt s scopes) :
    o.render scopes R = o.render scopes := by
  have ha : o.actions.map (Json.mapTexts fun s => R.text s scopes) =
      o.actions.map (Json.mapTexts fun s => Reading.standard.text s scopes) :=
    List.map_congr_left fun a ha => a.mapTexts_congr fun s hs => (h s (.action ha hs)).1
  rw [Output.render, Output.render, ha, (h _ .response).1]

/-- Tests that agree on the items find the same item. -/
theorem Matcher.firstIndexed?_congr {α : Type} {p q : α → Bool} {as : List α}
    (h : ∀ a ∈ as, p a = q a) : firstIndexed? p as = firstIndexed? q as := by
  induction as with
  | nil => rfl
  | cons a as ih =>
    rw [firstIndexed?, firstIndexed?, h a List.mem_cons_self,
      ih fun b hb => h b (List.mem_cons_of_mem a hb)]

/-- The same rule matches by a reading that is right at the subjects. -/
theorem Matcher.evaluate?_of_isRight {m : Matcher}
    (h : ∀ r ∈ m, R.IsRightAt r.rule.subject scopes) : m.evaluate? scopes R = m.evaluate? scopes :=
  firstIndexed?_congr fun r hr => congrArg r.matches? (h r hr).1

/-! ## Requests -/

/-- The templates that a request is made of. -/
inductive Webhook.HasRequestText (h : Webhook) : String → Prop where
  | url : h.HasRequestText h.url
  | header {e : String × String} : e ∈ h.headers → h.HasRequestText e.2
  | params {v : Json} {s : String} : h.params = some v → v.HasText s → h.HasRequestText s

/-- A webhook has the same parameters of its own by a reading that is right for its request. -/
theorem Webhook.ownParams_of_isRight {h : Webhook}
    (hr : ∀ s, h.HasRequestText s → R.IsRightAt s scopes) :
    h.ownParams scopes R = h.ownParams scopes := by
  unfold Webhook.ownParams
  rcases hp : h.params with _ | v
  · rfl
  · cases v with
    | obj es =>
      exact Json.mapEntryTexts_congr es fun e he s hs => (hr s (.params hp (.entry he hs))).1
    | _ => rfl

/-- A webhook prepares the same request by a reading that is right for it. -/
theorem Webhook.prepare_of_isRight {h : Webhook}
    (hr : ∀ s, h.HasRequestText s → R.IsRightAt s scopes) :
    h.prepare scopes R = h.prepare scopes := by
  have ha : h.address? scopes R = h.address? scopes := by
    rw [Webhook.address?, Webhook.address?, (hr _ .url).2]
  have hp : h.sentParams scopes R = h.sentParams scopes := by
    rw [Webhook.sentParams, Webhook.sentParams, Webhook.ownParams_of_isRight hr]
  have hh : (h.headers.map fun e => (e.1, R.text e.2 scopes)) =
      h.headers.map fun e => (e.1, Reading.standard.text e.2 scopes) :=
    List.map_congr_left fun e he => congrArg (Prod.mk e.1) (hr _ (.header he)).1
  rw [Webhook.prepare, Webhook.prepare, ha, hp, hh]

/-- A call is the same by a reading that is right for its request. -/
theorem Run.call_of_isRight {site : CallSite} {h : Webhook}
    (hr : ∀ s, h.HasRequestText s → R.IsRightAt s scopes) :
    Run.call site h scopes R = Run.call site h scopes := by
  rw [Run.call, Run.call, Run.callInFull, Run.callInFull, Webhook.prepare_of_isRight hr]

/-! ## Projections -/

/-- Items have the same texts by a reading that is right in the scopes of each. -/
theorem Foreach.texts_of_isRight {append : String} {index : Nat} {vs : List Json}
    (hr : ∀ k v, vs[k]? = some v →
      R.IsRightAt append (Foreach.itemScopes scopes (index + k) v)) :
    Foreach.texts append scopes index vs R = Foreach.texts append scopes index vs := by
  induction vs generalizing index with
  | nil => rfl
  | cons v vs ih =>
    have htail : ∀ k u, vs[k]? = some u →
        R.IsRightAt append (Foreach.itemScopes scopes (index + 1 + k) u) := fun k u hk => by
      rw [show index + 1 + k = index + (k + 1) by omega]
      exact hr (k + 1) u hk
    have hhead : R.text append (Foreach.itemScopes scopes index v) =
        Reading.standard.text append (Foreach.itemScopes scopes index v) := (hr 0 v rfl).1
    rw [Foreach.texts, Foreach.texts, ih htail, hhead]

/-- The output has the same scopes by a reading that is right at the items. -/
theorem Webhook.outputScopes_of_isRight {h : Webhook} {body : Json}
    (hr : ∀ g k v, h.foreach = some g → (g.items body)[k]? = some v →
      R.IsRightAt g.append (Foreach.itemScopes scopes k v)) :
    h.outputScopes body scopes R = h.outputScopes body scopes := by
  unfold Webhook.outputScopes
  cases hg : h.foreach with
  | none => rfl
  | some g =>
    have ht : g.run body scopes R = g.run body scopes := by
      rw [Foreach.run, Foreach.run, Foreach.texts_of_isRight fun k v hk => by
        rw [Nat.zero_add]
        exact hr g k v hg hk]
    simp only [ht]

/-- A reply is projected alike by a reading that is right at the items and at the output. -/
theorem Webhook.project_of_isRight {h : Webhook} {errorKeys : List String} {body : Json}
    (hf : ∀ g k v, h.foreach = some g → (g.items body)[k]? = some v →
      R.IsRightAt g.append (Foreach.itemScopes scopes k v))
    (ho : ∀ o layer s, h.output = some o → h.outputScopes body scopes = .ok layer →
      o.HasText s → R.IsRightAt s layer) :
    h.project errorKeys body scopes R = h.project errorKeys body scopes := by
  unfold Webhook.project
  rw [Webhook.outputScopes_of_isRight hf]
  cases triggeredKey? (h.errorKeys ++ errorKeys) body with
  | some key => rfl
  | none =>
    cases hl : h.outputScopes body scopes with
    | error reason => rfl
    | ok layer =>
      cases hout : h.output with
      | none => rfl
      | some o =>
        exact congrArg Except.ok (o.render_of_isRight fun s hs => ho o layer s hout hl hs)

/-! ## Runs -/

namespace Engine

/-- Where the run of a data map reads: a template and the scopes in which it is expanded. -/
inductive Frame.Reads (f : Frame) : String → Scopes → Prop where
  | subject {r : ReadyRule} : r ∈ f.map.matcher → f.Reads r.rule.subject f.scopes
  | rule {r : ReadyRule} {s : String} : r ∈ f.map.matcher → r.rule.output.HasText s →
      f.Reads s f.scopes
  | otherwise {r : ReadyRule} {o : Output} {s : String} : r ∈ f.map.matcher →
      r.rule.otherwise = some o → o.HasText s → f.Reads s f.scopes
  | request {h : Webhook} {s : String} : h ∈ f.map.webhooks → h.HasRequestText s →
      f.Reads s f.scopes
  | append {h : Webhook} {g : Foreach} {body item : Json} {i : Nat} : h ∈ f.map.webhooks →
      h.foreach = some g →
        f.Reads g.append (Foreach.itemScopes (f.scopes.push.bindResponse body) i item)
  | output {h : Webhook} {o : Output} {body : Json} {layer : Scopes} {s : String} :
      h ∈ f.map.webhooks → h.output = some o →
        h.outputScopes body (f.scopes.push.bindResponse body) = .ok layer → o.HasText s →
          f.Reads s layer
  | fallback {o : Output} {last : LastFailure} {s : String} : f.map.fallback = some o →
      o.HasText s → f.Reads s (f.fallbackScopes last)

end Engine
end AgentTool
