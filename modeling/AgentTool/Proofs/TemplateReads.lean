import AgentTool.Proofs.ScopeLaws
import AgentTool.Proofs.StrictTemplates

/-!
# What a template depends on

A strict template looks up the paths that it refers to and nothing else.  Two scopes that show the
same along these paths are the same to it, both as a text and as an address, and an address is
refused in both or in neither (`expand_eq_of_sameAt`).

So an argument or a variable that no path touches stays out of the text.  A path touches an entry of
an object in one of these ways:

| path | tells of the entry |
| --- | --- |
| the object as a whole | everything |
| its `length` | that it is there |
| the key of the entry, and what follows | the entry, or a part of it |
-/

namespace AgentTool

namespace Path

/-- The key under which a step looks into an object. -/
def Step.label : Step → String
  | .key k => k
  | .index n => toString n

/-- A path tells of the entry `key` in the objects bound to some names. -/
def Touches (names : List String) (key : String) : Path → Prop
  | .key name :: rest => name ∈ names ∧
      (rest = [] ∨ rest = [.key "length"] ∨ rest.head?.map Step.label = some key)
  | _ => False

/-- An entry changes only the paths that touch it. -/
theorem walk_insert {es : List (String × Json)} {key : String} {v : Json} {rest : Path}
    (hw : rest ≠ []) (hl : rest ≠ [.key "length"]) (hk : rest.head?.map Step.label ≠ some key) :
    walk (.obj (Entries.insert es key v)) rest = walk (.obj es) rest := by
  cases rest with
  | nil => exact absurd rfl hw
  | cons step rest =>
    have hn : step.label ≠ key := fun h => hk (congrArg some h)
    have hg : Entries.get? step.label (Entries.insert es key v) = Entries.get? step.label es := by
      rw [Entries.get?_insert, if_neg hn]
    cases step with
    | key k =>
      have hlast : ¬(rest.isEmpty = true ∧ k = "length") := by
        rintro ⟨he, rfl⟩
        exact hl (by rw [List.isEmpty_iff.1 he])
      simp only [walk, Json.field?]
      rw [show Entries.get? k (Entries.insert es key v) = Entries.get? k es from hg, if_neg hlast,
        if_neg hlast]
    | index n =>
      simp only [walk, item?]
      rw [show Entries.get? (toString n) (Entries.insert es key v) = Entries.get? (toString n) es
        from hg]

end Path

namespace Scopes

/-- Two scopes show the same along a textual path: the same text, or none in both. -/
def SameAt (s₁ s₂ : Scopes) (path : String) : Prop :=
  (s₁.resolveText? path).bind Json.display? = (s₂.resolveText? path).bind Json.display?

/-- Arguments and variables that a path does not touch do not change what it leads to. -/
theorem resolve?_insert {args global : List (String × Json)} {a g : String} {u v : Json}
    {path : Path} (ha : ¬path.Touches [argsName] a)
    (hg : ¬path.Touches [globalName, globalDataName] g) :
    (forInvocation (.obj (Entries.insert args a u)) (.obj (Entries.insert global g v))).resolve? path =
      (forInvocation (.obj args) (.obj global)).resolve? path := by
  cases path with
  | nil => rfl
  | cons step rest =>
    cases step with
    | index n => rfl
    | key name =>
      simp only [Path.Touches, not_and, not_or] at ha hg
      simp only [resolve?, get?_forInvocation]
      by_cases hmg : name ∈ [globalName, globalDataName]
      · obtain ⟨hw, hl, hk⟩ := hg hmg
        simp only [if_pos hmg, Option.bind_some]
        exact Path.walk_insert hw hl hk
      · simp only [if_neg hmg]
        by_cases hma : name ∈ [argsName]
        · obtain ⟨hw, hl, hk⟩ := ha hma
          simp only [if_pos hma, Option.bind_some]
          exact Path.walk_insert hw hl hk
        · simp only [if_neg hma]

end Scopes

namespace Template

variable {template : String} {s₁ s₂ : Scopes}

/-- A template expands alike in two scopes: to the same text, and to the same address or with a
refusal at the same place. -/
def ExpandsAlike (template : String) (s₁ s₂ : Scopes) : Prop :=
  expand template s₁ = expand template s₂ ∧ expandUrl template s₁ = expandUrl template s₂

/-- The path of every marker of a strict template is among its references. -/
theorem mem_references {body : List Char} {offset : Nat} {r : Reference}
    (hm : .marker body offset ∈ scan template) (hr : parseMarker body = .ok r) :
    r.text ∈ references template := by
  refine List.mem_filterMap.2 ⟨.marker body offset, hm, ?_⟩
  simp [tokenReference?, hr, Except.toOption]

/-- A marker reads its own path and nothing else. -/
theorem markerText_of_sameAt {body : List Char} {r : Reference} (hr : parseMarker body = .ok r)
    (hs : s₁.SameAt s₂ r.text) : markerText s₁ body = markerText s₂ body := by
  have hp := (of_parseMarker hr).2.1
  have hd : s₁.display? r.path = s₂.display? r.path := by
    simpa only [Scopes.SameAt, Scopes.resolveText?, hp, Option.bind_some, Scopes.display?] using hs
  rw [markerText_eq hr, markerText_eq hr, Reference.value?, Reference.value?, hd]

/-- The address of tokens depends on what their markers expand to. -/
theorem expandUrlTokens_congr {ts : List Token}
    (h : ∀ body offset, .marker body offset ∈ ts → markerText s₁ body = markerText s₂ body)
    (literal : List Char) : expandUrlTokens s₁ literal ts = expandUrlTokens s₂ literal ts := by
  induction ts generalizing literal with
  | nil => rfl
  | cons t ts ih =>
    have ih := ih fun body offset hm => h body offset (List.mem_cons_of_mem t hm)
    cases t with
    | text cs => rw [expandUrlTokens, expandUrlTokens, ih]
    | unterminated rest offset => rw [expandUrlTokens, expandUrlTokens, ih]
    | marker body offset =>
      rw [expandUrlTokens, expandUrlTokens, h body offset List.mem_cons_self]
      simp only [ih]

/-- A strict template expands alike in scopes that show the same along its references. -/
theorem expandsAlike_of_sameAt (hs : IsStrict template)
    (h : ∀ path ∈ references template, s₁.SameAt s₂ path) : ExpandsAlike template s₁ s₂ := by
  have hm : ∀ body offset, .marker body offset ∈ scan template →
      markerText s₁ body = markerText s₂ body := by
    intro body offset hm
    obtain _ | ⟨hr⟩ := hs.plain _ hm
    exact markerText_of_sameAt hr (h _ (mem_references hm hr))
  constructor
  · have ht : (scan template).map (tokenText s₁) = (scan template).map (tokenText s₂) := by
      refine List.map_congr_left fun t ht => ?_
      cases t with
      | text cs => rfl
      | unterminated rest offset => rfl
      | marker body offset => rw [tokenText, tokenText, hm body offset ht]
    rw [expand, expand, ht]
  · rw [expandUrl, expandUrl, expandUrlTokens_congr hm]

/-- **A strict template depends only on what it refers to.**  In scopes that show the same along its
references, of whatever layers they are, it expands to the same text, and to the same address unless
this is refused at the same place.  So an argument and a variable that no reference touches may be
anything, or be missing. -/
theorem expand_eq_of_sameAt (hs : IsStrict template) :
    (∀ s₁ s₂ : Scopes, (∀ path ∈ references template, s₁.SameAt s₂ path) →
      ExpandsAlike template s₁ s₂) ∧
    ∀ (args global : List (String × Json)) (a g : String) (u v : Json),
      (∀ path ∈ references template, ∀ steps, Path.parse? path = some steps →
        ¬steps.Touches [Scopes.argsName] a ∧
          ¬steps.Touches [Scopes.globalName, Scopes.globalDataName] g) →
      ExpandsAlike template
        (.forInvocation (.obj (Entries.insert args a u)) (.obj (Entries.insert global g v)))
        (.forInvocation (.obj args) (.obj global)) := by
  refine ⟨fun s₁ s₂ h => expandsAlike_of_sameAt hs h, fun args global a g u v h => ?_⟩
  refine expandsAlike_of_sameAt hs fun path hp => ?_
  cases hsteps : Path.parse? path with
  | none => simp [Scopes.SameAt, Scopes.resolveText?, hsteps]
  | some steps =>
    obtain ⟨ha, hg⟩ := h path hp steps hsteps
    simp [Scopes.SameAt, Scopes.resolveText?, hsteps, Scopes.resolve?_insert ha hg]

/-- A path that reads one argument and a query that reads one variable do not depend on another
argument and a secret; the address is refused at the same place. -/
theorem refused_whatever_the_secret :
    ∃ template, IsStrict template ∧ references template = ["args.id", "global.key"] ∧
      ∀ u v, expandUrl template
        (.forInvocation (.obj (Entries.insert [("id", .str "..")] "other" u))
          (.obj (Entries.insert [("key", .str "k")] "secret" v))) = .error ⟨11⟩ := by
  have hp : parse "http://h/a/${args.id}?k=${global.key || none}" = .ok [.literal "http://h/a/",
      .reference ⟨"args.id", [.key "args", .key "id"], none⟩, .literal "?k=",
      .reference ⟨"global.key", [.key "global", .key "key"], some "none"⟩] := by
    decide +kernel
  have hr : references "http://h/a/${args.id}?k=${global.key || none}" =
      ["args.id", "global.key"] := by
    decide +kernel
  have hs : IsStrict "http://h/a/${args.id}?k=${global.key || none}" := ⟨_, hp⟩
  refine ⟨_, hs, hr, fun u v => ?_⟩
  have hx : expandUrl "http://h/a/${args.id}?k=${global.key || none}"
      (.forInvocation (.obj [("id", .str "..")]) (.obj [("key", .str "k")])) = .error ⟨11⟩ := by
    decide +kernel
  have ha : Path.parse? "args.id" = some [.key "args", .key "id"] := by decide +kernel
  have hg : Path.parse? "global.key" = some [.key "global", .key "key"] := by decide +kernel
  refine ((expand_eq_of_sameAt hs).2 _ _ "other" "secret" u v ?_).2.trans hx
  intro path hm steps hsteps
  rw [hr] at hm
  rcases List.mem_cons.1 hm with rfl | hm
  · obtain rfl := Option.some.inj (ha.symm.trans hsteps)
    simp [Path.Touches, Path.Step.label, Scopes.argsName, Scopes.globalName, Scopes.globalDataName]
  · obtain rfl := List.mem_singleton.1 hm
    obtain rfl := Option.some.inj (hg.symm.trans hsteps)
    simp [Path.Touches, Path.Step.label, Scopes.argsName, Scopes.globalName, Scopes.globalDataName]

end Template
end AgentTool
