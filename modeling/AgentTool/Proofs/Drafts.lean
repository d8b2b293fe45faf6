import AgentTool.Draft
import AgentTool.Proofs.CheckMessages
import Mathlib.Data.List.DropRight
import Mathlib.Data.List.TakeWhile

/-!
# What a draft comes to

A draft changes step by step; what it comes to can be told from its steps at once
(`Draft.ofSteps_eq`).

| part of the document | told by |
| --- | --- |
| parameters, rules, webhooks | all steps that add one, in order |
| description, fallback, error keys of the tool, instance key | the last step that sets it |
| headers of a webhook | all steps that add one, from its webhook up to the next one |
| any other field of a webhook | the last step that sets it, from its webhook up to the next one |

A step that belongs to a webhook and stands before every webhook changes nothing of this.  The
first such step refuses the draft when it is built (`Draft.build_eq_misuse`), and no fault of the
document has the same error.
-/

namespace AgentTool
namespace Draft

variable {d : Draft} {s : Step} {steps : List Step} {name n method url : String}

/-! ## Steps -/

namespace Step

/-- Whether a step adds a webhook. -/
def opens : Step → Bool
  | webhook .. => true
  | _ => false

/-- The name of a step that belongs to a webhook. -/
def setter? : Step → Option String
  | header .. => some "header"
  | params _ => some "params"
  | formParam _ => some "form_param"
  | argsAsParams _ => some "input_args_as_params"
  | requireArgs _ => some "require_args"
  | foreach _ => some "foreach"
  | output _ => some "output"
  | errorKeys _ => some "error_keys"
  | _ => none

/-- What a step changes of its webhook: a header is added, any other field gets a new value. -/
def change : Step → Webhook → Webhook
  | header name value, w => { w with headers := w.headers ++ [(name, value)] }
  | params v, w => { w with params := some v }
  | formParam field, w => { w with formParam := some field }
  | argsAsParams on, w => { w with argsAsParams := on }
  | requireArgs args, w => { w with requireArgs := args }
  | foreach f, w => { w with foreach := some f }
  | output o, w => { w with output := some o }
  | errorKeys keys, w => { w with errorKeys := keys }
  | _, w => w

/-- A step about the tool as a whole. -/
def isGeneral (s : Step) : Prop := s.opens = false ∧ s.setter? = none

/-- A step that sets a field of a webhook opens none. -/
theorem opens_of_setter (h : s.setter? = some n) : s.opens = false := by
  cases s <;> first | rfl | cases h

end Step

/-- A step that sets a field of a webhook changes the last webhook. -/
theorem apply_of_setter (h : s.setter? = some n) : d.apply s = d.onWebhook n s.change := by
  cases s <;> first | (obtain rfl := Option.some.inj h; rfl) | cases h

/-- Changing the last of several changes the one at the end. -/
theorem changeLast_concat {α : Type} {f : α → α} (as : List α) (a : α) :
    changeLast f (as ++ [a]) = as ++ [f a] := by
  induction as with
  | nil => rfl
  | cons b as ih =>
    obtain ⟨c, cs, hc⟩ := List.exists_cons_of_ne_nil (List.append_ne_nil_of_right_ne_nil as
      (List.cons_ne_nil a []))
    rw [List.cons_append, hc, changeLast, ← hc, ih, List.cons_append]
    exact nofun

/-- **A step of a webhook changes the last webhook, and nothing else.** -/
theorem apply_setter (h : s.setter? = some n) {ws : List Webhook} {w : Webhook}
    (hw : d.map.webhooks = ws ++ [w]) :
    d.apply s = { d with map := { d.map with webhooks := ws ++ [s.change w] } } := by
  rw [apply_of_setter h, onWebhook, hw, changeLast_concat, if_neg (by simp)]

/-- Without a webhook it only leaves its name, if it is the first of its kind. -/
theorem apply_setter_of_none (h : s.setter? = some n) (hw : d.map.webhooks = []) :
    d.apply s = { d with misplaced := d.misplaced <|> some n } := by
  rw [apply_of_setter h, onWebhook, hw]
  rfl

/-- A step about the tool leaves the webhooks as they are. -/
theorem webhooks_of_general (h : s.isGeneral) : (d.apply s).map.webhooks = d.map.webhooks := by
  obtain ⟨ho, hs⟩ := h
  cases s with
  | describe | parameter | rule | globalErrorKeys | fallback | instanceKey => rfl
  | webhook => cases ho
  | _ => cases hs

/-- **A step about the tool and a step of a webhook can change places.** -/
theorem apply_comm {a b : Step} (ha : a.isGeneral) (hb : b.setter? = some n) :
    (d.apply a).apply b = (d.apply b).apply a := by
  have hsame : (d.apply a).map.webhooks = d.map.webhooks := webhooks_of_general ha
  obtain ⟨ho, hs⟩ := ha
  rw [apply_of_setter hb, apply_of_setter hb, onWebhook, onWebhook, hsame]
  -- which of the two ways a step of a webhook goes, the other step does not decide
  cases d.map.webhooks.isEmpty <;> cases a with
  | describe | parameter | rule | globalErrorKeys | fallback | instanceKey => rfl
  | webhook => cases ho
  | _ => cases hs

/-! ## What steps tell -/

/-- What the last of the steps tells that tell something. -/
def latest? {α : Type} (tells : Step → Option α) (steps : List Step) : Option α :=
  (steps.filterMap tells).getLast?

/-- The latest that steps tell is what the last of them tells, or the latest before it. -/
@[simp] theorem latest?_concat {α : Type} {tells : Step → Option α} :
    latest? tells (steps ++ [s]) = (tells s).or (latest? tells steps) := by
  unfold latest?
  cases h : tells s <;> simp [h]

/-- A webhook that was added with a method and an address, after its own steps. -/
def webhookOf (method url : String) (own : List Step) : Webhook where
  url := url
  method := method
  headers := own.filterMap fun | .header name value => some (name, value) | _ => none
  params := latest? (fun | .params v => some v | _ => none) own
  formParam := latest? (fun | .formParam field => some field | _ => none) own
  argsAsParams := (latest? (fun | .argsAsParams on => some on | _ => none) own).getD false
  requireArgs := (latest? (fun | .requireArgs args => some args | _ => none) own).getD []
  foreach := latest? (fun | .foreach f => some f | _ => none) own
  output := latest? (fun | .output o => some o | _ => none) own
  errorKeys := (latest? (fun | .errorKeys keys => some keys | _ => none) own).getD []

/-- The steps up to the next one that adds a webhook. -/
def ownSteps (steps : List Step) : List Step := steps.takeWhile fun s => !s.opens

/-- The webhooks of steps, each after the steps up to the next one. -/
def webhooksOf : List Step → List Webhook
  | [] => []
  | .webhook method url :: steps => webhookOf method url (ownSteps steps) :: webhooksOf steps
  | _ :: steps => webhooksOf steps

/-- The first step that lacks its webhook, among the steps before every webhook. -/
def misplaced? (steps : List Step) : Option String := (ownSteps steps).findSome? Step.setter?

/-- The draft that the steps tell of. -/
def described (name : String) (steps : List Step) : Draft where
  name := name
  description := (latest? (fun | .describe text => some text | _ => none) steps).getD ""
  parameters := {
    properties := steps.filterMap fun
      | .parameter name type description _ choices => some (name, { type, description, choices })
      | _ => none
    required := steps.filterMap fun
      | .parameter name _ _ true _ => some name
      | _ => none }
  map := {
    rules := steps.filterMap fun | .rule r => some r | _ => none
    webhooks := webhooksOf steps
    fallback := latest? (fun | .fallback o => some o | _ => none) steps
    errorKeys := (latest? (fun | .globalErrorKeys keys => some keys | _ => none) steps).getD [] }
  instanceKey := latest? (fun | .instanceKey key => some key | _ => none) steps
  misplaced := misplaced? steps

/-! ## One step more -/

/-- One step more changes the webhook as the step does. -/
theorem webhookOf_concat {own : List Step} :
    webhookOf method url (own ++ [s]) = s.change (webhookOf method url own) := by
  cases s <;> simp [webhookOf, Step.change]

/-- One step more belongs to no webhook only if none has been opened. -/
theorem ownSteps_concat :
    ownSteps (steps ++ [s]) =
      if steps.any Step.opens || s.opens then ownSteps steps else steps ++ [s] := by
  unfold ownSteps
  induction steps with
  | nil => cases h : s.opens <;> simp [h]
  | cons x steps ih =>
    cases hx : x.opens
    · rw [List.cons_append, List.takeWhile_cons_of_pos (by simp [hx]), ih, List.any_cons, hx,
        Bool.false_or, List.takeWhile_cons_of_pos (by simp [hx])]
      split <;> rfl
    · simp [hx]

/-- Up to the first webhook there are no others. -/
theorem ownSteps_of_none (h : steps.any Step.opens = false) : ownSteps steps = steps := by
  rw [ownSteps, List.takeWhile_eq_self_iff]
  exact fun x hx => by simpa using List.any_eq_false.1 h x hx

/-- There is no webhook exactly if no step opens one. -/
theorem webhooksOf_eq_nil : webhooksOf steps = [] ↔ steps.any Step.opens = false := by
  induction steps with
  | nil => simp [webhooksOf]
  | cons x steps ih => cases x <;> simp_all [webhooksOf, Step.opens]

/-- A step that opens a webhook adds it at the end, with nothing set. -/
theorem webhooksOf_concat_webhook :
    webhooksOf (steps ++ [.webhook method url]) = webhooksOf steps ++ [webhookOf method url []] := by
  have hown (steps : List Step) : ownSteps (steps ++ [.webhook method url]) = ownSteps steps := by
    rw [ownSteps_concat, if_pos]
    simp [Step.opens]
  induction steps with
  | nil => rfl
  | cons x steps ih => cases x <;> simp [webhooksOf, ih, hown]

/-- A step that adds no webhook changes the last one. -/
theorem webhooksOf_concat (hs : s.opens = false) :
    webhooksOf (steps ++ [s]) = changeLast s.change (webhooksOf steps) := by
  induction steps with
  | nil => cases s <;> first | rfl | cases hs
  | cons x steps ih =>
    cases x with
    | webhook m u =>
      rw [List.cons_append, webhooksOf, webhooksOf, ih, ownSteps_concat, hs, Bool.or_false]
      cases hopen : steps.any Step.opens with
      | true =>
        obtain ⟨w, ws, hw⟩ := List.exists_cons_of_ne_nil
          (show webhooksOf steps ≠ [] by simp [Ne, webhooksOf_eq_nil, hopen])
        rw [hw]
        rfl
      | false =>
        rw [webhooksOf_eq_nil.2 hopen, ownSteps_of_none hopen, if_neg (by simp), webhookOf_concat]
        rfl
    | _ => exact ih

/-- One step more is misplaced only if no webhook has been opened and none was misplaced before. -/
theorem misplaced?_concat :
    misplaced? (steps ++ [s]) =
      if steps.any Step.opens then misplaced? steps else (misplaced? steps).or s.setter? := by
  unfold misplaced?
  rw [ownSteps_concat]
  cases hopen : steps.any Step.opens with
  | true => rfl
  | false =>
    cases hs : s.opens with
    | true =>
      have hn : s.setter? = none := by cases s <;> first | rfl | cases hs
      simp [hn]
    | false =>
      rw [ownSteps_of_none hopen]
      simp [List.findSome?_append]

/-- Changing nothing of the last changes nothing. -/
theorem changeLast_id {α : Type} (as : List α) : changeLast (fun a => a) as = as := by
  rcases List.eq_nil_or_concat as with rfl | ⟨bs, b, rfl⟩
  · rfl
  · rw [List.concat_eq_append, changeLast_concat]

/-- A step about the tool as a whole is no step of the last webhook. -/
theorem webhooksOf_concat_general (h : s.isGeneral) :
    webhooksOf (steps ++ [s]) = webhooksOf steps := by
  rw [webhooksOf_concat h.1]
  obtain ⟨ho, hs⟩ := h
  cases s with
  | describe | parameter | rule | globalErrorKeys | fallback | instanceKey => exact changeLast_id _
  | webhook => cases ho
  | _ => cases hs

/-- A step of a webhook changes the last of the webhooks that the steps tell of, or is told of. -/
theorem onWebhook_described (h : s.setter? = some n) :
    (described name steps).onWebhook n s.change = { described name steps with
      map := { (described name steps).map with webhooks := webhooksOf (steps ++ [s]) }
      misplaced := misplaced? (steps ++ [s]) } := by
  rw [webhooksOf_concat (Step.opens_of_setter h), misplaced?_concat, h, onWebhook]
  cases hopen : steps.any Step.opens with
  | false =>
    have hw : webhooksOf steps = [] := webhooksOf_eq_nil.2 hopen
    simp [described, hw, changeLast]
  | true =>
    have hw : webhooksOf steps ≠ [] := by simp [Ne, webhooksOf_eq_nil, hopen]
    simp [described, hw]

/-- A step about the tool as a whole leaves what the steps of webhooks tell. -/
theorem described_concat_general (h : s.isGeneral) :
    (described name (steps ++ [s])).map.webhooks = (described name steps).map.webhooks ∧
      (described name (steps ++ [s])).misplaced = (described name steps).misplaced := by
  refine ⟨webhooksOf_concat_general h, ?_⟩
  show misplaced? (steps ++ [s]) = misplaced? steps
  rw [misplaced?_concat, h.2, Option.or_none, ite_self]

/-- **The draft that the steps tell of goes on as a draft does.** -/
theorem described_concat : described name (steps ++ [s]) = (described name steps).apply s := by
  have hg (h : s.isGeneral) := @described_concat_general s steps name h
  simp only [described] at hg
  cases s with
  | describe | rule | globalErrorKeys | fallback | instanceKey =>
    simp [described, apply, hg ⟨rfl, rfl⟩]
  | parameter name type description required choices =>
    cases required <;> simp [described, apply, declare, hg ⟨rfl, rfl⟩]
  | webhook method url =>
    simp [described, apply, webhooksOf_concat_webhook, misplaced?_concat, Step.setter?, webhookOf,
      latest?]
  | _ =>
    rw [apply_of_setter rfl, onWebhook_described rfl]
    simp [described]

/-- **What steps come to is what they tell.** -/
theorem ofSteps_eq (name : String) (steps : List Step) :
    ofSteps name steps = described name steps := by
  induction steps using List.reverseRecOn with
  | nil => rfl
  | append_singleton steps s ih => rw [described_concat, ← ih, ofSteps, ofSteps, List.foldl_concat]

/-! ## Building -/

/-- The complaint about a step that lacks its webhook. -/
def misuse (name n : String) : DefinitionError :=
  .invalid s!"'{n}' was set on tool '{name}' before any webhook was added"

/-- The text of a misuse, as one text behind the other. -/
theorem misuse_eq : misuse name n =
    .invalid ("'" ++ n ++ "' was set on tool '" ++ name ++ "' before any webhook was added") := rfl

/-- The first step that lacks its webhook: in front of it are steps about the tool alone. -/
def Misplaces (steps : List Step) (n : String) : Prop :=
  ∃ before step after, steps = before ++ step :: after ∧ step.setter? = some n ∧
    ∀ x ∈ before, x.isGeneral

/-- The field that is found is set before every webhook, and first of all. -/
theorem misplaced?_eq_some : misplaced? steps = some n ↔ Misplaces steps n := by
  induction steps with
  | nil => exact iff_of_false nofun (by simp [Misplaces])
  | cons s steps ih =>
    -- the first step is about the tool, or it is the one that is looked for, or there is none
    by_cases hg : s.isGeneral
    · have hm : misplaced? (s :: steps) = misplaced? steps := by
        simp [misplaced?, ownSteps, hg.1, hg.2]
      rw [hm, ih]
      constructor
      · rintro ⟨before, step, after, rfl, hs, hb⟩
        exact ⟨s :: before, step, after, rfl, hs, List.forall_mem_cons.2 ⟨hg, hb⟩⟩
      · rintro ⟨_ | ⟨x, before⟩, step, after, he, hs, hb⟩
        · obtain ⟨rfl, -⟩ := List.cons.inj he
          exact absurd (hs.symm.trans hg.2) nofun
        · obtain ⟨rfl, rfl⟩ := List.cons.inj he
          exact ⟨before, step, after, rfl, hs, (List.forall_mem_cons.1 hb).2⟩
    · have hm : Misplaces (s :: steps) n ↔ s.setter? = some n := by
        constructor
        · rintro ⟨_ | ⟨x, before⟩, step, after, he, hs, hb⟩
          · exact (List.cons.inj he).1 ▸ hs
          · exact absurd ((List.cons.inj he).1 ▸ (List.forall_mem_cons.1 hb).1) hg
        · exact fun hs => ⟨[], s, steps, rfl, hs, nofun⟩
      rw [hm, misplaced?, ownSteps]
      cases ho : s.opens with
      | true =>
        have hs : s.setter? ≠ some n := fun hs => nomatch ho.symm.trans (Step.opens_of_setter hs)
        simp [ho, hs]
      | false =>
        obtain ⟨m, hs⟩ := Option.ne_none_iff_exists'.1 fun hs => hg ⟨ho, hs⟩
        simp [ho, hs]

/-- The text of a misuse tells the field. -/
theorem misuse_injective {m : String} (h : misuse name m = misuse name n) : m = n := by
  simpa [misuse_eq] using h

/-- A draft is refused for a misplaced step exactly if it has one; no fault of its document has
the same message. -/
theorem build_eq_misuse : d.build = .error (misuse d.name n) ↔ d.misplaced = some n := by
  cases hm : d.misplaced with
  | some m =>
    have hb : d.build = .error (misuse d.name m) := by
      rw [build, hm]
      rfl
    rw [hb, Except.error.injEq, Option.some.injEq]
    exact ⟨misuse_injective, fun h => h ▸ rfl⟩
  | none =>
    have hb : d.build = d.document.compile d.instanceKey := by rw [build, hm]
    refine iff_of_false (fun h => ?_) nofun
    have hq : Check.Unquoted ("'" ++ n ++ "' was set on tool '" ++ d.name ++
        "' before any webhook was added") :=
      Document.saysUnquoted_compile _ (hb.symm.trans h)
    simp [Check.Unquoted] at hq

/-- **A draft is what its steps tell.**  The document has the parameters, rules and webhooks in the
order in which they were added, and each webhook has its own steps applied to it.  A step of a
webhook changes the last webhook and nothing else, or without one leaves the document as it is,
and it can change places with steps about the tool.  The draft is refused for the first step that
lacks its webhook, whatever follows; without such a step it is built as its document is compiled,
with the last instance key. -/
theorem ofSteps_describes (name : String) (steps : List Step) :
    let d := ofSteps name steps
    d.document = (described name steps).document ∧
      (∀ s n, s.setter? = some n →
        (∀ ws w, d.map.webhooks = ws ++ [w] →
          d.apply s = { d with map := { d.map with webhooks := ws ++ [s.change w] } }) ∧
        (d.map.webhooks = [] → (d.apply s).document = d.document) ∧
        ∀ a, a.isGeneral → (d.apply a).apply s = (d.apply s).apply a) ∧
      (∀ n, d.build = .error (misuse name n) ↔ Misplaces steps n) ∧
      ((∀ n, ¬Misplaces steps n) →
        d.build = d.document.compile (described name steps).instanceKey) := by
  intro d
  have hd : d = described name steps := ofSteps_eq name steps
  have hm : d.misplaced = misplaced? steps := by rw [hd]; rfl
  refine ⟨by rw [hd], fun s n hs => ⟨fun ws w => apply_setter hs, fun hw => ?unplaced,
    fun a ha => apply_comm ha hs⟩, fun n => ?refused, fun hn => ?built⟩
  case unplaced =>
    rw [apply_setter_of_none hs hw]
    rfl
  case refused =>
    have hname : d.name = name := by rw [hd]; rfl
    rw [← misplaced?_eq_some, ← hm, ← build_eq_misuse, hname]
  case built =>
    have hnone : d.misplaced = none := by
      rw [hm]
      exact Option.eq_none_iff_forall_ne_some.2 fun n h => hn n (misplaced?_eq_some.1 h)
    rw [build, hnone, hd]

/-- Two webhooks with steps of their own. -/
def twoWebhooks : List Step := [.describe "Looks a name up.", .webhook "GET" "https://a.example",
  .header "X" "1", .errorKeys ["error"], .instanceKey "k", .webhook "POST" "https://b.example",
  .params .null, .header "X" "2", .header "X" "3", .argsAsParams true, .instanceKey "l"]

/-- Both webhooks have their own headers; a further step goes to the second one. -/
theorem ofSteps_of_twoWebhooks :
    let d := ofSteps "lookup" twoWebhooks
    let a : Webhook := { url := "https://a.example", headers := [("X", "1")], errorKeys := ["error"] }
    let b : Webhook := {
      url := "https://b.example"
      method := "POST"
      headers := [("X", "2"), ("X", "3")]
      params := some .null
      argsAsParams := true }
    d.map.webhooks = [a, b] ∧
      (d.apply (.params (.bool true))).map.webhooks = [a, { b with params := some (.bool true) }] ∧
      d.build = d.document.compile (some "l") := by
  intro d a b
  obtain ⟨hd, hs, hr, hb⟩ := ofSteps_describes "lookup" twoWebhooks
  have hw : d.map.webhooks = [a] ++ [b] := congrArg DataMap.webhooks (Option.some.inj
    (congrArg Document.dataMap hd))
  refine ⟨hw, ?_, hb fun n => ?_⟩
  · rw [(hs (.params (.bool true)) "params" rfl).1 [a] b hw]
    rfl
  · rw [← misplaced?_eq_some]
    exact nofun

/-- A misplaced step is told whatever follows it. -/
example : (ofSteps "t" [.describe "d", .header "X" "1", .params .null, .webhook "GET" "u"]).build =
    .error (misuse "t" "header") := rfl

end Draft
end AgentTool
