import AgentTool.Proofs.Acceptance
import AgentTool.Proofs.Readings
import AgentTool.Proofs.ScopeLaws

/-!
# What a projection comes to

A projection has exactly one outcome, the first of these that applies (`Webhook.Projects`):

| the body of the reply | outcome |
| --- | --- |
| holds something true under an error key | the first such key, those of the webhook before the others |
| gives no items to an iteration that requires some | a lack of results |
| anything else | the output, in a layer of its own |

The layer binds the joined text of the items, and each item is expanded in a layer of its own around
that.  Scopes enter a template by what names stand for and by nothing else (`Output.render_congr`),
so the layers are described by their names alone: for an item only `this` and `foreach` are others
than without it (`Foreach.Sees`), and the name of the text is not among them.
-/

namespace AgentTool

/-! ## Error keys -/

/-- The values that count as false. -/
inductive Json.IsFalse : Json → Prop where
  | null : IsFalse .null
  | no : IsFalse (.bool false)
  | zero : IsFalse (.int 0)
  /-- a zero of either sign -/
  | float {x : Binary64} : x.significand = 0 → IsFalse (.float x)
  | text : IsFalse (.str "")
  | array : IsFalse (.arr [])
  | object : IsFalse (.obj [])

/-- A value is taken for true unless it is one of the false ones. -/
theorem Json.isTruthy_iff {v : Json} : v.isTruthy = true ↔ ¬v.IsFalse := by
  constructor
  · rintro h (_ | _ | _ | hx | _ | _ | _) <;> simp_all [isTruthy, Binary64.isZero]
  · intro h
    cases v with
    | null => exact absurd .null h
    | bool b =>
      cases b with
      | true => rfl
      | false => exact absurd .no h
    | int n =>
      have hn : n ≠ 0 := by
        rintro rfl
        exact h .zero
      simpa [isTruthy] using hn
    | float x =>
      have hx : x.significand ≠ 0 := fun hx => h (.float hx)
      simpa [isTruthy, Binary64.isZero] using hx
    | str s =>
      have hs : s ≠ "" := by
        rintro rfl
        exact h .text
      simpa [isTruthy] using hs
    | arr items =>
      cases items with
      | nil => exact absurd .array h
      | cons => rfl
    | obj entries =>
      cases entries with
      | nil => exact absurd .object h
      | cons => rfl

/-- A body has something true under a path. -/
def Json.Holds (body : Json) (path : String) : Prop :=
  ∃ v, Path.get? body path = some v ∧ ¬v.IsFalse

/-- The first of some paths under which a body has something true. -/
def Json.FirstHeld (body : Json) (paths : List String) (path : String) : Prop :=
  ∃ before after, paths = before ++ path :: after ∧ body.Holds path ∧ ∀ p ∈ before, ¬body.Holds p

section Keys

variable {body : Json} {keys : List String} {key : String}

/-- A key is triggered exactly if the body holds something true under it. -/
theorem isTriggered_iff : isTriggered body key = true ↔ body.Holds key := by
  rw [isTriggered, Option.any_eq_true]
  simp only [Json.isTruthy_iff, Json.Holds]

/-- The triggered key is the first one that the body holds. -/
theorem triggeredKey?_eq_some : triggeredKey? keys body = some key ↔ body.FirstHeld keys key := by
  rw [triggeredKey?, List.find?_eq_some_iff_append]
  simp only [Bool.not_eq_true', ← Bool.not_eq_true, isTriggered_iff, Json.FirstHeld]
  constructor
  · rintro ⟨hk, before, after, rfl, hb⟩
    exact ⟨before, after, rfl, hk, hb⟩
  · rintro ⟨before, after, rfl, hk, hb⟩
    exact ⟨hk, before, after, rfl, hb⟩

/-- No key is triggered exactly if the body holds none. -/
theorem triggeredKey?_eq_none : triggeredKey? keys body = none ↔ ∀ k ∈ keys, ¬body.Holds k := by
  rw [triggeredKey?, List.find?_eq_none]
  simp only [isTriggered_iff]

end Keys

/-! ## Items -/

namespace Foreach

variable {f : Foreach} {body item : Json} {scopes s₁ s₂ : Scopes} {i : Nat}

/-- The array that a reply has for an iteration; without one there is nothing to go through. -/
def source (f : Foreach) (body : Json) : List Json :=
  match Path.get? body f.input with
  | some (.arr items) => items
  | _ => []

/-- How many items are processed: all of them, or the most that are allowed. -/
def count (f : Foreach) (body : Json) : Nat :=
  f.most.elim (f.source body).length (min (f.source body).length)

/-- What names stand for where an item is expanded. -/
structure Sees (scopes : Scopes) (i : Nat) (item : Json) (s : Scopes) : Prop where
  /-- an object has all its fields, and its position unless it has a field of that name -/
  object : ∀ fields, item = .obj fields → s.get? Scopes.thisName =
    some (.obj (fields ++ if "index" ∈ Entries.keys fields then [] else [("index", .int i)]))
  other : item.isObject = false →
    s.get? Scopes.thisName = some (.obj [("value", item), ("index", .int i)])
  position : s.get? Scopes.foreachName = some (.obj [("index", .int i)])
  /-- all other names stand for what they stand for without the item -/
  rest : ∀ name, name ≠ Scopes.thisName → name ≠ Scopes.foreachName →
    s.get? name = scopes.get? name

/-- The text of the items that are processed: one expansion after the other, from the first on. -/
def IsText (f : Foreach) (body : Json) (scopes : Scopes) (text : String) : Prop :=
  ∃ s : Nat → Scopes,
    (∀ i < f.count body, ∃ item, (f.source body)[i]? = some item ∧ Sees scopes i item (s i)) ∧
    text = String.join ((List.range (f.count body)).map fun i => Template.expand f.append (s i))

/-- The items of an iteration are the first ones, as many as it takes. -/
theorem items_eq : f.items body = (f.source body).take (f.count body) := by
  have hm : f.items body = f.most.elim (f.source body) fun n => (f.source body).take n := by
    unfold items source
    cases Path.get? body f.input with
    | none => cases f.most <;> simp
    | some v =>
      cases v with
      | arr vs => cases f.most <;> rfl
      | _ => cases f.most <;> simp
  rw [hm, count]
  cases f.most with
  | none => exact List.take_length.symm
  | some n =>
    rw [Option.elim_some, Option.elim_some, Nat.min_comm, ← List.take_take, List.take_length]

/-- An iteration takes no more items than there are. -/
theorem count_le_length : f.count body ≤ (f.source body).length := by
  unfold count
  cases f.most with
  | none => exact Nat.le_refl _
  | some n => exact Nat.min_le_left _ _

/-- An iteration has as many items as it takes. -/
theorem length_items : (f.items body).length = f.count body := by
  rw [items_eq, List.length_take]
  exact Nat.min_eq_left count_le_length

/-- An item is expanded where names stand for what they should. -/
theorem itemScopes_sees : Sees scopes i item (itemScopes scopes i item) where
  object := by
    rintro fields rfl
    rw [itemScopes, Scopes.get?_bind, if_neg (by decide), Scopes.get?_bind, if_pos rfl, boundItem]
    by_cases h : "index" ∈ Entries.keys fields
    · simp [Entries.fill, h, Check.get?_isSome.2 h]
    · have hn : (Entries.get? "index" fields).isSome ≠ true := mt Check.get?_isSome.1 h
      simp [Entries.fill, h, hn]
  other h := by
    rw [itemScopes, Scopes.get?_bind, if_neg (by decide), Scopes.get?_bind, if_pos rfl]
    cases item with
    | obj => cases h
    | _ => rfl
  position := by rw [itemScopes, Scopes.get?_bind, if_pos rfl]
  rest name ht hf := by
    rw [itemScopes, Scopes.get?_bind, if_neg hf, Scopes.get?_bind, if_neg ht]
    rfl

/-- What is seen at an item leaves nothing open. -/
theorem Sees.get?_eq (h₁ : Sees scopes i item s₁) (h₂ : Sees scopes i item s₂) (name : String) :
    s₁.get? name = s₂.get? name := by
  by_cases ht : name = Scopes.thisName
  · subst ht
    cases item with
    | obj fields => rw [h₁.object fields rfl, h₂.object fields rfl]
    | _ => rw [h₁.other rfl, h₂.other rfl]
  by_cases hf : name = Scopes.foreachName
  · subst hf
    rw [h₁.position, h₂.position]
  rw [h₁.rest name ht hf, h₂.rest name ht hf]

/-- The text of each item is at its place. -/
theorem getElem?_texts {append : String} {start j : Nat} {vs : List Json} :
    (texts append scopes start vs)[j]? =
      vs[j]?.map fun v => Template.expand append (itemScopes scopes (start + j) v) := by
  induction vs generalizing start j with
  | nil => rfl
  | cons v vs ih =>
    cases j with
    | zero => rfl
    | succ j =>
      rw [texts, List.getElem?_cons_succ, List.getElem?_cons_succ, ih]
      rw [Nat.add_assoc, Nat.add_comm 1]

/-- An iteration is run to its text. -/
theorem run_isText : f.IsText body scopes (f.run body scopes).1 := by
  let sees (i : Nat) : Scopes := itemScopes scopes i ((f.source body)[i]?.getD .null)
  refine ⟨sees, fun i hi => ?_, congrArg String.join (List.ext_getElem? fun i => ?_)⟩
  · have hlt : i < (f.source body).length := Nat.lt_of_lt_of_le hi count_le_length
    refine ⟨(f.source body)[i], List.getElem?_eq_getElem hlt, ?_⟩
    simp only [sees, List.getElem?_eq_getElem hlt, Option.getD_some]
    exact itemScopes_sees
  · rw [getElem?_texts, items_eq, List.getElem?_map, List.getElem?_take]
    by_cases hi : i < f.count body
    · have hlt : i < (f.source body).length := Nat.lt_of_lt_of_le hi count_le_length
      simp [sees, hi, List.getElem?_eq_getElem hlt]
    · simp [hi]

end Foreach

/-! ## What scopes are for -/

section Scopes

variable {s₁ s₂ : Scopes}

/-- Templates see of scopes what names stand for. -/
theorem Template.expand_congr (h : ∀ name, s₁.get? name = s₂.get? name) (template : String) :
    expand template s₁ = expand template s₂ := by
  have hp : ∀ path, s₁.resolve? path = s₂.resolve? path := by
    intro path
    cases path with
    | nil => rfl
    | cons step rest =>
      cases step with
      | index n => rfl
      | key name => simp only [Scopes.resolve?, h]
  have hd : s₁.display? = s₂.display? := funext fun path => by rw [Scopes.display?, hp]; rfl
  have ht : tokenText s₁ = tokenText s₂ := by
    funext t
    cases t with
    | marker body offset => simp only [tokenText, markerText, hd]
    | _ => rfl
  rw [expand, expand, ht]

/-- So do outputs. -/
theorem Output.render_congr (h : ∀ name, s₁.get? name = s₂.get? name) (o : Output) :
    o.render s₁ = o.render s₂ := by
  simp only [Output.render, Reading.standard_text, Template.expand_congr h]

end Scopes

/-- An iteration has one text. -/
theorem Foreach.IsText.unique {f : Foreach} {body : Json} {scopes : Scopes} {t₁ t₂ : String}
    (h₁ : f.IsText body scopes t₁) (h₂ : f.IsText body scopes t₂) : t₁ = t₂ := by
  obtain ⟨s₁, hs₁, rfl⟩ := h₁
  obtain ⟨s₂, hs₂, rfl⟩ := h₂
  refine congrArg String.join (List.map_congr_left fun i hi => ?_)
  obtain ⟨item, hitem, hsees₁⟩ := hs₁ i (List.mem_range.1 hi)
  obtain ⟨item', hitem', hsees₂⟩ := hs₂ i (List.mem_range.1 hi)
  obtain rfl := Option.some.inj (hitem.symm.trans hitem')
  exact Template.expand_congr (hsees₁.get?_eq hsees₂) _

/-! ## Projections -/

namespace Webhook

variable {h : Webhook} {errorKeys : List String} {body : Json} {scopes s₁ s₂ : Scopes}

/-- The webhook has an iteration that requires items, and gets none to process. -/
def Lacking (h : Webhook) (body : Json) : Prop :=
  ∃ f, h.foreach = some f ∧ f.requireItems = true ∧ f.count body = 0

/-- What names stand for in the output: an iteration adds its text under its name. -/
def IsLayer (h : Webhook) (body : Json) (scopes s : Scopes) : Prop :=
  match h.foreach with
  | none => ∀ name, s.get? name = scopes.get? name
  | some f => ∃ text, f.IsText body scopes text ∧
      ∀ name, s.get? name = if name = f.output then some (.str text) else scopes.get? name

/-- What a projection comes to. -/
inductive Projects (h : Webhook) (errorKeys : List String) (body : Json) (scopes : Scopes) :
    Except Failure Rendered → Prop where
  | errorKey {key : String} : body.FirstHeld (h.errorKeys ++ errorKeys) key →
      h.Projects errorKeys body scopes (.error (.errorKey key))
  | emptyResults : (∀ key ∈ h.errorKeys ++ errorKeys, ¬body.Holds key) → h.Lacking body →
      h.Projects errorKeys body scopes (.error .emptyResults)
  | output {o : Output} {s : Scopes} : (∀ key ∈ h.errorKeys ++ errorKeys, ¬body.Holds key) →
      ¬h.Lacking body → h.output = some o → h.IsLayer body scopes s →
        h.Projects errorKeys body scopes (.ok (o.render s))
  /-- a webhook without an output is none that has been compiled -/
  | unfinished : (∀ key ∈ h.errorKeys ++ errorKeys, ¬body.Holds key) → ¬h.Lacking body →
      h.output = none → h.Projects errorKeys body scopes (.error .invalidRequest)

/-- Two layers of a body bind every name alike. -/
theorem IsLayer.get?_eq (h₁ : h.IsLayer body scopes s₁) (h₂ : h.IsLayer body scopes s₂)
    (name : String) : s₁.get? name = s₂.get? name := by
  unfold IsLayer at h₁ h₂
  cases hf : h.foreach with
  | none =>
    simp only [hf] at h₁ h₂
    rw [h₁, h₂]
  | some f =>
    simp only [hf] at h₁ h₂
    obtain ⟨t₁, ht₁, hn₁⟩ := h₁
    obtain ⟨t₂, ht₂, hn₂⟩ := h₂
    rw [hn₁, hn₂, ht₁.unique ht₂]

/-- The scopes of the output are a layer with the text of the items, unless items are lacking. -/
theorem outputScopes_cases (h : Webhook) (body : Json) (scopes : Scopes) :
    h.Lacking body ∧ h.outputScopes body scopes = .error .emptyResults ∨
      ¬h.Lacking body ∧ ∃ s, h.outputScopes body scopes = .ok s ∧ h.IsLayer body scopes s := by
  unfold Lacking outputScopes IsLayer
  cases hf : h.foreach with
  | none => exact .inr ⟨by simp, scopes.push, rfl, fun _ => rfl⟩
  | some f =>
    have hc : (f.run body scopes).2 = f.count body := Foreach.length_items
    simp only [hc]
    by_cases hl : f.count body = 0 ∧ f.requireItems = true
    · exact .inl ⟨⟨f, rfl, hl.2, hl.1⟩, if_pos hl⟩
    · refine .inr ⟨?_, _, if_neg hl, _, Foreach.run_isText, fun name => Scopes.get?_bind⟩
      rintro ⟨g, hg, hr, hz⟩
      obtain rfl := Option.some.inj hg
      exact hl ⟨hz, hr⟩

/-- A projection comes to what it should. -/
theorem projects_project : h.Projects errorKeys body scopes (h.project errorKeys body scopes) := by
  unfold project
  cases ht : triggeredKey? (h.errorKeys ++ errorKeys) body with
  | some key => exact .errorKey (triggeredKey?_eq_some.1 ht)
  | none =>
    have hno := triggeredKey?_eq_none.1 ht
    obtain ⟨hl, he⟩ | ⟨hl, s, he, hs⟩ := h.outputScopes_cases body scopes
    · simp only [he]
      exact .emptyResults hno hl
    · simp only [he]
      cases ho : h.output with
      | none => exact .unfinished hno hl ho
      | some o => exact .output hno hl ho hs

/-- The outcome of a projection is what the body is projected to. -/
theorem Projects.project_eq {result : Except Failure Rendered}
    (hp : h.Projects errorKeys body scopes result) :
    h.project errorKeys body scopes = result := by
  unfold project
  cases hp with
  | errorKey hk => rw [triggeredKey?_eq_some.2 hk]
  | emptyResults hno hl =>
    obtain ⟨-, he⟩ | ⟨hn, -⟩ := h.outputScopes_cases body scopes
    · rw [triggeredKey?_eq_none.2 hno, he]
      rfl
    · exact absurd hl hn
  | @output o s hno hl ho hs =>
    obtain ⟨hl', -⟩ | ⟨-, s', he, hs'⟩ := h.outputScopes_cases body scopes
    · exact absurd hl' hl
    · rw [triggeredKey?_eq_none.2 hno, he, ho]
      exact congrArg Except.ok (o.render_congr (hs'.get?_eq hs))
  | unfinished hno hl ho =>
    obtain ⟨hl', -⟩ | ⟨-, s', he, -⟩ := h.outputScopes_cases body scopes
    · exact absurd hl' hl
    · rw [triggeredKey?_eq_none.2 hno, he, ho]
      rfl

/-- **A projection comes to the one outcome that is described**, for any body and in any scopes. -/
theorem project_eq_iff (h : Webhook) (errorKeys : List String) (body : Json) (scopes : Scopes)
    (result : Except Failure Rendered) :
    h.project errorKeys body scopes = result ↔ h.Projects errorKeys body scopes result := by
  refine ⟨?_, Projects.project_eq⟩
  rintro rfl
  exact projects_project

/-- Two of three rows are joined, in their order: the first has a field for its position, the second
is no object.  The name of the text is not known to them. -/
example :
    let joined : Foreach := {
      input := "rows"
      output := "list"
      most := some 2
      append := "${this.index}${this.value}${list}${foreach.index};" }
    let h : Webhook := { url := "", foreach := joined, output := some { response := "${list}" } }
    let rows : Json := .arr [.obj [("index", .int 7)], .bool true, .null]
    ((h.project ["error"] (.obj [("rows", rows), ("error", .int 0)]) .empty).toOption.map
      fun r => r.response) = some "70;1true1;" := by
  decide +kernel

end Webhook
end AgentTool
