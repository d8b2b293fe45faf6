import AgentTool.Projection
import Mathlib.Tactic.Common

/-!
# Looking names up

Inserting into entries changes what one key is bound to and nothing else, so
binding a name in scopes changes that name alone.  A projection looks up the error keys
and the items of a reply, and has few reasons to fail (`Webhook.project_error`).
-/

namespace AgentTool

/-- What an insertion leaves: the new value under its key, and the old ones under all others. -/
theorem Entries.get?_insert {α : Type} {entries : List (String × α)} {key name : String} {v : α} :
    get? name (insert entries key v) = if name = key then some v else get? name entries := by
  induction entries with
  | nil => simp [insert, get?, eq_comm]
  | cons e es ih =>
    obtain ⟨k, u⟩ := e
    unfold insert
    by_cases hk : k = key
    · subst hk
      by_cases hn : k = name
      · simp [get?, hn]
      · simp [get?, hn, Ne.symm hn]
    · rw [if_neg hk]
      by_cases hn : k = name
      · subst hn
        simp [get?, hk]
      · simp [get?, hn, ih]

namespace Scopes

variable {s : Scopes} {name other : String} {v : Json}

/-- A binding changes what its name is bound to, and nothing else. -/
theorem get?_bind : (s.bind name v).get? other = if other = name then some v else s.get? other := by
  simp only [get?, bind, find?, Entries.get?_insert]
  by_cases h : other = name
  · rw [if_pos h, if_pos h]
  · rw [if_neg h, if_neg h]

/-- What the names of an invocation are bound to. -/
theorem get?_forInvocation {args global : Json} {name : String} :
    (forInvocation args global).get? name =
      if name ∈ [globalName, globalDataName] then some global
      else if name ∈ [argsName] then some args else none := by
  have he : empty.get? name = none := rfl
  rw [forInvocation, get?_bind, get?_bind, get?_bind, he]
  by_cases hg : name = globalName
  · simp [hg]
  · by_cases hd : name = globalDataName
    · simp [hd]
    · simp [hg, hd]

/-- Once a reply is bound, its name stands for it. -/
theorem get?_bindResponse : (s.bindResponse v).get? responseName = some v := by
  unfold bindResponse
  cases v <;> exact get?_bind.trans (if_pos rfl)

end Scopes

namespace Webhook

/-- A projection fails for an error key, for a lack of items, or for a lack of an output. -/
theorem project_error {h : Webhook} {errorKeys : List String} {body : Json} {scopes : Scopes}
    {reason : Failure} (hp : h.project errorKeys body scopes = .error reason) :
    (∃ key, reason = .errorKey key) ∨ reason = .emptyResults ∨
      reason = .invalidRequest ∧ h.output = none := by
  unfold project at hp
  cases ht : triggeredKey? (h.errorKeys ++ errorKeys) body with
  | some key =>
    rw [ht] at hp
    exact .inl ⟨key, (Except.error.inj hp).symm⟩
  | none =>
    rw [ht] at hp
    cases hl : h.outputScopes body scopes with
    | ok layer =>
      rw [hl] at hp
      cases ho : h.output with
      | some o =>
        rw [ho] at hp
        cases hp
      | none =>
        rw [ho] at hp
        exact .inr (.inr ⟨(Except.error.inj hp).symm, rfl⟩)
    | error reason' =>
      rw [hl] at hp
      obtain rfl : reason' = reason := Except.error.inj hp
      unfold outputScopes at hl
      cases hf : h.foreach with
      | none => simp [hf] at hl
      | some f =>
        simp only [hf] at hl
        split at hl
        · exact .inr (.inl (Except.error.inj hl).symm)
        · cases hl

end Webhook
end AgentTool
