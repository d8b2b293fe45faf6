import AgentTool.Engine
import AgentTool.Proofs.Attempts

/-!
# The answer of a data map

What a data map answers, told by its rules and webhooks alone and not by the
order in which a run goes about it (`Engine.Frame.Answers`):

1. the output of the first rule whose expanded subject its pattern matches;
2. if there are no webhooks, the output for no match of the first rule that has one;
3. the output of the first webhook that has its arguments, whose call succeeds
   and whose reply can be projected, all webhooks before it having failed;
4. the fallback, which sees the body of the last failure, or the failure text.

The network decides what a call comes to (`Network.ending`); a webhook is tried in
the network that the webhooks before it have left.  There is one answer at most
(`Answers.unique`).
-/

namespace AgentTool

namespace Matcher

variable {α : Type} {p : α → Prop} {as : List α} {i j : Nat} {a b : α}

/-- `a` stands at position `i` and is the first item with a property. -/
def IsFirst (p : α → Prop) (as : List α) (i : Nat) (a : α) : Prop :=
  as[i]? = some a ∧ p a ∧ ∀ j < i, ∀ b, as[j]? = some b → ¬p b

/-- The first of its kind is one of the items. -/
theorem IsFirst.mem (h : IsFirst p as i a) : a ∈ as := List.mem_of_getElem? h.1

/-- There is one first of its kind. -/
theorem IsFirst.unique (ha : IsFirst p as i a) (hb : IsFirst p as j b) : i = j ∧ a = b := by
  have hij : i = j := by
    rcases Nat.lt_trichotomy i j with h | h | h
    · exact absurd ha.2.1 (hb.2.2 i h a ha.1)
    · exact h
    · exact absurd hb.2.1 (ha.2.2 j h b hb.1)
  subst hij
  exact ⟨rfl, Option.some.inj (ha.1.symm.trans hb.1)⟩

/-- The search finds the first item that passes its test. -/
theorem isFirst_of_firstIndexed? {p : α → Bool} {i : Nat} (h : firstIndexed? p as = some (i, a)) :
    IsFirst (fun a => p a = true) as i a := by
  induction as generalizing i with
  | nil => simp [firstIndexed?] at h
  | cons c as ih =>
    unfold firstIndexed? at h
    by_cases hc : p c = true
    · rw [if_pos hc] at h
      obtain ⟨rfl, rfl⟩ := Prod.mk.inj (Option.some.inj h)
      exact ⟨rfl, hc, fun j hj => absurd hj (Nat.not_lt_zero j)⟩
    · rw [if_neg hc] at h
      obtain ⟨⟨k, d⟩, hk, hp⟩ := Option.map_eq_some_iff.1 h
      obtain ⟨rfl, rfl⟩ := Prod.mk.inj hp
      obtain ⟨h₁, h₂, h₃⟩ := ih hk
      refine ⟨h₁, h₂, fun j hj b hb => ?_⟩
      cases j with
      | zero =>
        obtain rfl := Option.some.inj hb
        exact hc
      | succ j => exact h₃ j (Nat.lt_of_succ_lt_succ hj) b hb

/-- The search finds nothing only if no item passes its test. -/
theorem not_of_firstIndexed? {p : α → Bool} (h : firstIndexed? p as = none) :
    ∀ a ∈ as, ¬p a = true := by
  induction as with
  | nil => simp
  | cons c as ih =>
    unfold firstIndexed? at h
    by_cases hc : p c = true
    · simp [hc] at h
    · rw [if_neg hc, Option.map_eq_none_iff] at h
      rintro a (_ | ⟨_, ha⟩)
      · exact hc
      · exact ih h a ha

end Matcher

namespace Engine
namespace Frame

variable {f : Frame} {n n₁ n₂ : Network} {h : Webhook}

/-- The pattern of a rule is found in its expanded subject. -/
def Matches (f : Frame) (r : ReadyRule) : Prop :=
  r.regex.isMatch (Template.expand r.rule.subject f.scopes) = true

/-- No rule matches. -/
def Unmatched (f : Frame) : Prop := ∀ r ∈ f.map.matcher, ¬f.Matches r

/-- A webhook lacks an argument that it requires: absent, null or empty. -/
def Lacks (f : Frame) (h : Webhook) : Prop :=
  ∃ name ∈ h.requireArgs, isMissing (f.args.field? name) = true

/-- The call of a webhook in a network comes to a result and leaves another network. -/
def Calls (f : Frame) (h : Webhook) (n : Network) (result : Except CallFailure (Nat × Json))
    (n' : Network) : Prop :=
  match h.prepare f.scopes with
  | .error failure => result = .error ⟨failure, none⟩ ∧ n' = n
  | .ok r => ∃ k, (RetryPolicy.ofConfig f.engine.config).Last
      (RetryPolicy.ofConfig f.engine.config).retries (n.ending f.engine.config r) k ∧
        result = concluded (n.ending f.engine.config r k) ∧
        n' = n.after f.engine.config r (k + 1)

/-- The output of a webhook for the body of a reply. -/
def projected (f : Frame) (h : Webhook) (body : Json) : Except Failure Rendered :=
  h.project f.map.errorKeys body (f.scopes.push.bindResponse body)

/-- A webhook that is tried in a network gives no answer. -/
inductive Fails (f : Frame) (h : Webhook) (n : Network) : LastFailure → Network → Prop
  | skipped : f.Lacks h → Fails f h n ⟨.missingArguments, none⟩ n
  | call {last : LastFailure} {n' : Network} :
    ¬f.Lacks h → f.Calls h n (.error last) n' → Fails f h n last n'
  | projection {status : Nat} {body : Json} {reason : Failure} {n' : Network} :
    ¬f.Lacks h → f.Calls h n (.ok (status, body)) n' → f.projected h body = .error reason →
      Fails f h n ⟨reason, some body⟩ n'

/-- A webhook that is tried in a network gives an output. -/
inductive Gives (f : Frame) (h : Webhook) (n : Network) : Nat → Rendered → Network → Prop
  | intro {status : Nat} {body : Json} {out : Rendered} {n' : Network} :
    ¬f.Lacks h → f.Calls h n (.ok (status, body)) n' → f.projected h body = .ok out →
      Gives f h n status out n'

/-- The webhooks before a position have been tried in order, and each has failed. -/
inductive Failed (f : Frame) (n : Network) : Nat → LastFailure → Network → Prop
  | start : Failed f n 0 ⟨.noMatch, none⟩ n
  | next {i : Nat} {h : Webhook} {last last' : LastFailure} {n₁ n₂ : Network} :
    Failed f n i last n₁ → f.map.webhooks[i]? = some h → f.Fails h n₁ last' n₂ →
      Failed f n (i + 1) last' n₂

/-- No rule and no webhook gives an answer, and `last` is the last failure. -/
structure Exhausted (f : Frame) (n : Network) (last : LastFailure) (n' : Network) : Prop where
  unmatched : f.Unmatched
  otherwise : f.map.webhooks = [] → ∀ r ∈ f.map.matcher, r.rule.otherwise = none
  failed : Failed f n f.map.webhooks.length last n'

/-- The scopes of the fallback: the body of the last failure is bound if there is one. -/
def fallbackScopes (f : Frame) (last : LastFailure) : Scopes :=
  match last.body with
  | some body => f.scopes.push.bindResponse body
  | none => f.scopes.push

/-- The answer of a data map in a network, and the network that is left. -/
inductive Answers (f : Frame) (n : Network) : Answer → Network → Prop
  | expression {i : Nat} {r : ReadyRule} : Matcher.IsFirst f.Matches f.map.matcher i r →
      Answers f n (r.rule.output.render f.scopes, .expression i) n
  | otherwise {i : Nat} {r : ReadyRule} {o : Output} : f.Unmatched → f.map.webhooks = [] →
      Matcher.IsFirst (fun r => r.rule.otherwise.isSome = true) f.map.matcher i r →
        r.rule.otherwise = some o → Answers f n (o.render f.scopes, .otherwise i) n
  | webhook {i status : Nat} {h : Webhook} {last : LastFailure} {out : Rendered}
    {n₁ n₂ : Network} : f.Unmatched → Failed f n i last n₁ → f.map.webhooks[i]? = some h →
      f.Gives h n₁ status out n₂ → Answers f n (out, .webhook i status) n₂
  | fallback {last : LastFailure} {o : Output} {n' : Network} : f.Exhausted n last n' →
      f.map.fallback = some o →
        Answers f n (o.render (f.fallbackScopes last), .fallback last.failure) n'
  | failed {last : LastFailure} {n' : Network} : f.Exhausted n last n' → f.map.fallback = none →
      Answers f n (.ofText f.engine.config.failureText, .failed last.failure) n'

/-! ### There is one answer -/

/-- A call comes to one result, in one network. -/
theorem Calls.unique {a b : Except CallFailure (Nat × Json)} (ha : f.Calls h n a n₁)
    (hb : f.Calls h n b n₂) : a = b ∧ n₁ = n₂ := by
  unfold Calls at ha hb
  cases hp : h.prepare f.scopes with
  | error failure =>
    rw [hp] at ha hb
    exact ⟨ha.1.trans hb.1.symm, ha.2.trans hb.2.symm⟩
  | ok r =>
    rw [hp] at ha hb
    obtain ⟨k, hk, rfl, rfl⟩ := ha
    obtain ⟨l, hl, rfl, rfl⟩ := hb
    obtain rfl := hk.unique hl
    exact ⟨rfl, rfl⟩

/-- A webhook fails in one way, in one network. -/
theorem Fails.unique {a b : LastFailure} (ha : f.Fails h n a n₁) (hb : f.Fails h n b n₂) :
    a = b ∧ n₁ = n₂ := by
  rcases ha with hl | ⟨hl, hc⟩ | ⟨hl, hc, hp⟩ <;> rcases hb with hl' | ⟨hl', hc'⟩ | ⟨hl', hc', hp'⟩
  · exact ⟨rfl, rfl⟩
  · exact absurd hl hl'
  · exact absurd hl hl'
  · exact absurd hl' hl
  · obtain ⟨he, rfl⟩ := hc.unique hc'
    exact ⟨Except.error.inj he, rfl⟩
  · exact absurd (hc.unique hc').1 (by simp)
  · exact absurd hl' hl
  · exact absurd (hc.unique hc').1 (by simp)
  · obtain ⟨he, rfl⟩ := hc.unique hc'
    obtain ⟨rfl, rfl⟩ := Prod.mk.inj (Except.ok.inj he)
    rw [hp] at hp'
    obtain rfl := Except.error.inj hp'
    exact ⟨rfl, rfl⟩

/-- A webhook gives one output, in one network. -/
theorem Gives.unique {s t : Nat} {a b : Rendered} (ha : f.Gives h n s a n₁)
    (hb : f.Gives h n t b n₂) : s = t ∧ a = b ∧ n₁ = n₂ := by
  obtain ⟨-, hc, hp⟩ := ha
  obtain ⟨-, hc', hp'⟩ := hb
  obtain ⟨he, rfl⟩ := hc.unique hc'
  obtain ⟨rfl, rfl⟩ := Prod.mk.inj (Except.ok.inj he)
  rw [hp] at hp'
  exact ⟨rfl, Except.ok.inj hp', rfl⟩

/-- A webhook that fails gives nothing. -/
theorem Fails.not_gives {last : LastFailure} {s : Nat} {out : Rendered} (hf : f.Fails h n last n₁)
    (hg : f.Gives h n s out n₂) : False := by
  obtain ⟨hl, hc, hp⟩ := hg
  rcases hf with hl' | ⟨-, hc'⟩ | ⟨-, hc', hp'⟩
  · exact hl hl'
  · exact absurd (hc.unique hc').1 (by simp)
  · obtain ⟨rfl, rfl⟩ := Prod.mk.inj (Except.ok.inj (hc.unique hc').1)
    rw [hp] at hp'
    exact absurd hp' (by simp)

/-- The webhooks before one leave one failure and one network. -/
theorem Failed.unique {i : Nat} {a b : LastFailure} (ha : f.Failed n i a n₁)
    (hb : f.Failed n i b n₂) : a = b ∧ n₁ = n₂ := by
  induction ha generalizing b n₂ with
  | start =>
    cases hb
    exact ⟨rfl, rfl⟩
  | next _ hh hf ih =>
    obtain _ | ⟨hb, hh', hf'⟩ := hb
    obtain ⟨rfl, rfl⟩ := ih hb
    obtain rfl := Option.some.inj (hh.symm.trans hh')
    exact hf.unique hf'

/-- Webhooks have failed only up to the first that gives an output. -/
theorem Failed.le_of_gives {i j s : Nat} {last last' : LastFailure} {out : Rendered}
    {n' : Network} (hj : f.Failed n j last n') (hi : f.Failed n i last' n₁)
    (hh : f.map.webhooks[i]? = some h) (hg : f.Gives h n₁ s out n₂) : j ≤ i := by
  induction hj with
  | start => exact Nat.zero_le i
  | @next j h' last₁ _ m₁ m₂ hj' hh' hf ih =>
    refine Nat.lt_of_le_of_ne ih fun he => ?_
    subst he
    obtain ⟨-, rfl⟩ := hj'.unique hi
    obtain rfl := Option.some.inj (hh.symm.trans hh')
    exact hf.not_gives hg

/-- No more webhooks have failed than there are. -/
theorem Failed.le_length {i : Nat} {last : LastFailure} (hf : f.Failed n i last n₁) :
    i ≤ f.map.webhooks.length := by
  cases hf with
  | start => exact Nat.zero_le _
  | next _ hh _ => exact (List.getElem?_eq_some_iff.1 hh).1

/-- The webhooks that have all failed leave one failure and one network. -/
theorem Exhausted.unique {a b : LastFailure} (ha : f.Exhausted n a n₁) (hb : f.Exhausted n b n₂) :
    a = b ∧ n₁ = n₂ :=
  ha.failed.unique hb.failed

/-- When all webhooks have failed, none of them has given an output. -/
theorem Exhausted.not_gives {i s : Nat} {last last' : LastFailure} {out : Rendered} {n' : Network}
    (hx : f.Exhausted n last n') (hf : f.Failed n i last' n₁) (hh : f.map.webhooks[i]? = some h)
    (hg : f.Gives h n₁ s out n₂) : False := by
  have hlt := (List.getElem?_eq_some_iff.1 hh).1
  have hle := hx.failed.le_of_gives hf hh hg
  omega

/-- **There is one answer at most.** -/
theorem Answers.unique {a b : Answer} (ha : f.Answers n a n₁) (hb : f.Answers n b n₂) :
    a = b ∧ n₁ = n₂ := by
  cases ha with
  | expression hi =>
    cases hb with
    | expression hj =>
      obtain ⟨rfl, rfl⟩ := hi.unique hj
      exact ⟨rfl, rfl⟩
    | otherwise hu => exact absurd hi.2.1 (hu _ hi.mem)
    | webhook hu => exact absurd hi.2.1 (hu _ hi.mem)
    | fallback hx => exact absurd hi.2.1 (hx.unmatched _ hi.mem)
    | failed hx => exact absurd hi.2.1 (hx.unmatched _ hi.mem)
  | otherwise hu hw hi ho =>
    cases hb with
    | expression hj => exact absurd hj.2.1 (hu _ hj.mem)
    | otherwise _ _ hj ho' =>
      obtain ⟨rfl, rfl⟩ := hi.unique hj
      obtain rfl := Option.some.inj (ho.symm.trans ho')
      exact ⟨rfl, rfl⟩
    | webhook _ _ hh => simp [hw] at hh
    | fallback hx => simp [hx.otherwise hw _ hi.mem] at ho
    | failed hx => simp [hx.otherwise hw _ hi.mem] at ho
  | webhook hu hf hh hg =>
    cases hb with
    | expression hj => exact absurd hj.2.1 (hu _ hj.mem)
    | otherwise _ hw => simp [hw] at hh
    | webhook _ hf' hh' hg' =>
      obtain rfl := Nat.le_antisymm (hf.le_of_gives hf' hh' hg') (hf'.le_of_gives hf hh hg)
      obtain ⟨-, rfl⟩ := hf.unique hf'
      obtain rfl := Option.some.inj (hh.symm.trans hh')
      obtain ⟨rfl, rfl, rfl⟩ := hg.unique hg'
      exact ⟨rfl, rfl⟩
    | fallback hx => exact (hx.not_gives hf hh hg).elim
    | failed hx => exact (hx.not_gives hf hh hg).elim
  | fallback hx ho =>
    cases hb with
    | expression hj => exact absurd hj.2.1 (hx.unmatched _ hj.mem)
    | otherwise _ hw hj ho' => simp [hx.otherwise hw _ hj.mem] at ho'
    | webhook _ hf hh hg => exact (hx.not_gives hf hh hg).elim
    | fallback hx' ho' =>
      obtain ⟨rfl, rfl⟩ := hx.unique hx'
      obtain rfl := Option.some.inj (ho.symm.trans ho')
      exact ⟨rfl, rfl⟩
    | failed _ ho' => simp [ho] at ho'
  | failed hx ho =>
    cases hb with
    | expression hj => exact absurd hj.2.1 (hx.unmatched _ hj.mem)
    | otherwise _ hw hj ho' => simp [hx.otherwise hw _ hj.mem] at ho'
    | webhook _ hf hh hg => exact (hx.not_gives hf hh hg).elim
    | fallback _ ho' => simp [ho] at ho'
    | failed hx' _ =>
      obtain ⟨rfl, rfl⟩ := hx.unique hx'
      exact ⟨rfl, rfl⟩

end Frame
end Engine
end AgentTool
