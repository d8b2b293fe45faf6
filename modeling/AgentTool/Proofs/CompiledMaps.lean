import AgentTool.Proofs.Acceptance
import AgentTool.Proofs.Readings
import AgentTool.Proofs.ScopeLaws

/-!
# Compiled maps

The map of a compiled tool is made of the well-formed parts of its document
(`Document.map_wellFormed`).  So every template that its run reads is strict, its
methods are methods, its header fields have names, and its webhooks have outputs:
what is left to fail when it runs are the values that come in.
-/

namespace AgentTool

/-- A map of well-formed parts, in a tool whose parameters have the names `declared`. -/
structure ReadyMap.WellFormed (declared : List String) (m : ReadyMap) : Prop where
  rules : ∀ r ∈ m.matcher, r.rule.WellFormed ∧ Pattern.compile r.rule.pattern = .ok r.regex
  webhooks : ∀ h ∈ m.webhooks, h.WellFormed declared
  methods : ∀ h ∈ m.webhooks, h.method ∈ Check.methods
  fallback : ∀ o, m.fallback = some o → o.WellFormed
  errorKeys : ∀ key ∈ m.errorKeys, IsPathText key

/-! ## From documents to maps -/

/-- A method stays what it is when it is trimmed and put in upper case. -/
theorem normalized_method : ∀ method ∈ Check.methods,
    Text.upperAscii (Text.trimString method) = method := by
  decide

/-- A well-formed webhook is well formed as it is sent, with the name of a method. -/
theorem Webhook.WellFormed.normalized {declared : List String} {h : Webhook}
    (hw : h.WellFormed declared) :
    h.normalized.WellFormed declared ∧ h.normalized.method ∈ Check.methods := by
  obtain ⟨url, method, names, distinct, values, params, field, args, iteration, output, keys⟩ := hw
  unfold Webhook.normalized
  refine ⟨⟨url, ?_, names, distinct, values, params, field, args, iteration, output, keys⟩, method⟩
  dsimp only
  rw [normalized_method _ method]
  exact method

namespace Compile

/-- Rules that have become ready are well formed, and their patterns are those that were read. -/
theorem rules_wellFormed {i : Nat} {rs : List Rule} {m : Matcher} (h : rules i rs = .ok m) :
    ∀ r ∈ m, r.rule.WellFormed ∧ Pattern.compile r.rule.pattern = .ok r.regex := by
  have hw : ∀ r ∈ rs, r.WellFormed := rules_eq_ok.1 ⟨m, h⟩
  induction rs generalizing i m with
  | nil =>
    obtain rfl := Except.ok.inj h
    simp
  | cons r rs ih =>
    obtain ⟨_, -, h⟩ := Except.bind_eq_ok.1 h
    obtain ⟨ready, hr, h⟩ := Except.bind_eq_ok.1 h
    obtain ⟨rest, hrest, h⟩ := Except.bind_eq_ok.1 h
    obtain rfl := Except.ok.inj h
    have hready : ready.rule = r ∧ Pattern.compile r.pattern = .ok ready.regex := by
      unfold ReadyRule.ofRule at hr
      cases hp : Pattern.compile r.pattern with
      | ok regex =>
        rw [hp] at hr
        obtain rfl := Except.ok.inj hr
        exact ⟨rfl, rfl⟩
      | error e =>
        rw [hp] at hr
        cases hr
    refine List.forall_mem_cons.2 ⟨?_, ih hrest fun s hs => hw s (List.mem_cons_of_mem r hs)⟩
    rw [hready.1]
    exact ⟨hw r List.mem_cons_self, hready.2⟩

/-- A compiled map is well formed. -/
theorem dataMap_wellFormed {tool : String} {m : DataMap} {declared : List String}
    {ready : ReadyMap} (h : dataMap tool m.normalized declared = .ok ready) :
    ready.WellFormed declared := by
  have hw : m.WellFormed declared := dataMap_eq_ok.1 ⟨ready, h⟩
  obtain ⟨_, -, h⟩ := Except.bind_eq_ok.1 h
  obtain ⟨matcher, hm, h⟩ := Except.bind_eq_ok.1 h
  obtain ⟨_, -, h⟩ := Except.bind_eq_ok.1 h
  obtain ⟨_, -, h⟩ := Except.bind_eq_ok.1 h
  obtain ⟨_, -, h⟩ := Except.bind_eq_ok.1 h
  obtain rfl := Except.ok.inj h
  exact {
    rules := rules_wellFormed hm
    webhooks := List.forall_mem_map.2 fun w hm => (hw.webhooks w hm).normalized.1
    methods := List.forall_mem_map.2 fun w hm => (hw.webhooks w hm).normalized.2
    fallback := hw.fallback
    errorKeys := hw.errorKeys }

end Compile

/-- **The map of a compiled tool is well formed.** -/
theorem Document.map_wellFormed {d : Document} {instanceKey : Option String} {t : Tool}
    {m : ReadyMap} (hc : d.compile instanceKey = .ok t) (hm : t.runtime = .dataMap m) :
    m.WellFormed (Entries.keys d.parameters.properties) := by
  obtain ⟨_, -, hc⟩ := Except.bind_eq_ok.1 hc
  obtain ⟨_, -, hc⟩ := Except.bind_eq_ok.1 hc
  obtain ⟨r, hr, hc⟩ := Except.bind_eq_ok.1 hc
  obtain rfl := Except.ok.inj hc
  obtain rfl : r = .dataMap m := hm
  unfold Compile.runtime Document.normalized at hr
  cases hd : d.dataMap with
  | none =>
    cases hu : d.webhookUrl with
    | none => simp [hd, hu] at hr
    | some url =>
      simp only [hd, hu, Option.map_none] at hr
      obtain ⟨_, -, hr⟩ := Except.bind_eq_ok.1 hr
      cases hr
  | some dm =>
    cases hu : d.webhookUrl with
    | none =>
      simp only [hd, hu, Option.map_some] at hr
      obtain ⟨ready, hready, hr⟩ := Except.bind_eq_ok.1 hr
      obtain rfl := Runtime.dataMap.inj (Except.ok.inj hr)
      exact Compile.dataMap_wellFormed hready
    | some url => simp [hd, hu] at hr

/-! ## What a well-formed map guarantees -/

/-- Every template of a well-formed output is strict. -/
theorem Output.WellFormed.strict {o : Output} (ho : o.WellFormed) {s : String}
    (h : o.HasText s) : Template.IsStrict s := by
  cases h with
  | response => exact ho.response
  | action ha hs => exact (ho.actions _ ha).strict s hs

/-- Every template of a request of a well-formed webhook is strict. -/
theorem Webhook.WellFormed.strict {declared : List String} {h : Webhook}
    (hw : h.WellFormed declared) {s : String} (hs : h.HasRequestText s) : Template.IsStrict s := by
  cases hs with
  | url => exact hw.url.strict
  | header he => exact hw.headerValues _ he
  | params hp hs => exact (hw.params _ hp).strict s hs

/-- **Every template that a run reads is strict.** -/
theorem Engine.Frame.Reads.strict {f : Engine.Frame} {declared : List String}
    (hm : f.map.WellFormed declared) {s : String} {scopes : Scopes} (h : f.Reads s scopes) :
    Template.IsStrict s := by
  cases h with
  | subject hr => exact (hm.rules _ hr).1.subject
  | rule hr hs => exact (hm.rules _ hr).1.output.strict hs
  | otherwise hr ho hs => exact ((hm.rules _ hr).1.otherwise _ ho).strict hs
  | request hh hs => exact (hm.webhooks _ hh).strict hs
  | append hh hg => exact ((hm.webhooks _ hh).foreach _ hg).append
  | output hh ho _ hs =>
    obtain ⟨o, ho', hw⟩ := (hm.webhooks _ hh).output
    obtain rfl := Option.some.inj (ho.symm.trans ho')
    exact hw.strict hs
  | fallback ho hs => exact (hm.fallback _ ho).strict hs

end AgentTool
