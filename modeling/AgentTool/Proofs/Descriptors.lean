import AgentTool.Proofs.CompiledMaps
import AgentTool.Proofs.Published
import AgentTool.Proofs.SchemaLaws

/-!
# Descriptors are documents

The descriptor of a tool is the document of the tool as it is published.  It passes the
validation of documents, is read as that document, and is compiled to the same tool
again (`Document.descriptor_recompiles`).
-/

namespace AgentTool

open Layout Schema

/-! ## What is published passes validation -/

section Validation

variable {l : Layout} {note : String} {keys : List String} {props : List (String × Schema)}

/-- The keys are written. -/
def Layout.Has (l : Layout) : List String → Prop
  | [] => True
  | k :: ks => (l.value? k).isSome = true ∧ l.Has ks

/-- The values that are written are admitted as properties. -/
def Layout.Fits (l : Layout) : List (String × Schema) → Prop
  | [] => True
  | (k, s) :: ps => Holds (s.admits · = true) (l.value? k) ∧ l.Fits ps

/-- A published record has its required keys exactly if its layout has a value for each. -/
theorem Layout.required_present :
    (required keys).admits (.obj l.present) = true ↔ l.Has keys := by
  rw [admits_required]
  induction keys with
  | nil => simp [Has]
  | cons k ks ih => rw [Has, ← ih, List.forall_mem_cons, ← Check.get?_isSome, get?_present]

/-- A published record fits schemas for its properties exactly if the values of its layout do. -/
theorem Layout.properties_present :
    (properties props).admits (.obj l.present) = true ↔ l.Fits props := by
  rw [admits_properties]
  induction props with
  | nil => simp [Fits]
  | cons p ps ih => rw [Fits, ← ih, List.forall_mem_cons, get?_present]; rfl

/-- An object is admitted if the keys that it needs are written, and its values fit. -/
theorem Layout.object_present :
    (Document.object note keys props).admits (.obj l.present) = true ↔
      l.Has keys ∧ l.Fits props := by
  rw [← required_present, ← properties_present, Document.admits_object, admits_required,
    admits_properties]

/-- The name of a type of parameters is admitted. -/
theorem ParamType.admits_name (t : ParamType) :
    Document.paramTypeSchema.admits (.str t.name) = true := by
  cases t <;> simp [Document.paramTypeSchema, ParamType.all, ParamType.name, Json.same]

/-- A published property is admitted. -/
theorem Property.admits_toJson (p : Property) :
    Document.propertySchema.admits p.toJson = true := by
  rw [toJson_eq, Document.propertySchema, admits_named, object_present]
  simp [Has, Fits, value?, layout, Entries.get?, p.type.admits_name]

/-- Published parameters are admitted. -/
theorem Parameters.admits_toJson (p : Parameters) :
    Document.parametersSchema.admits p.toJson = true := by
  have hp : ∀ v, ∀ e ∈ p.properties, e.2.toJson = v → Document.propertySchema.admits v = true := by
    rintro _ e - rfl
    exact e.2.admits_toJson
  rw [toJson_eq, Document.parametersSchema, admits_named, object_present]
  simpa [Has, Fits, value?, layout, Entries.get?, Document.texts] using hp

/-- A published output is admitted. -/
theorem Output.admits_toJson (o : Output) : Document.outputSchema.admits o.toJson = true := by
  rw [toJson_eq, Document.outputSchema, admits_named, object_present]
  simp [Has, Fits, value?, layout, Entries.get?]

/-- A published repetition is admitted. -/
theorem Foreach.admits_toJson (f : Foreach) : Document.foreachSchema.admits f.toJson = true := by
  rw [toJson_eq, Document.foreachSchema, admits_named, object_present]
  simp [Has, Fits, value?, layout, Entries.get?, isBelowZero]

/-- A published webhook is admitted. -/
theorem Webhook.admits_toJson (w : Webhook) : Document.webhookSchema.admits w.toJson = true := by
  have hh : ∀ v, ∀ e ∈ w.headers, Json.str e.2 = v → Document.text.admits v = true := by
    rintro _ e - rfl
    exact Document.admits_text
  rw [toJson_eq, Document.webhookSchema, admits_named, object_present]
  simpa [Has, Fits, value?, layout, Entries.get?, Document.texts, Foreach.admits_toJson,
    Output.admits_toJson] using fun _ => hh

/-- A published rule is admitted. -/
theorem Rule.admits_toJson (r : Rule) : Document.ruleSchema.admits r.toJson = true := by
  rw [toJson_eq, Document.ruleSchema, admits_named, object_present]
  simp [Has, Fits, value?, layout, Entries.get?, Output.admits_toJson]

/-- A published data map is admitted. -/
theorem DataMap.admits_toJson (m : DataMap) : Document.dataMapSchema.admits m.toJson = true := by
  rw [toJson_eq, Document.dataMapSchema, admits_named, object_present]
  simp [Has, Fits, value?, layout, Entries.get?, Document.texts, Rule.admits_toJson,
    Webhook.admits_toJson, Output.admits_toJson]

/-- **What is published passes validation.** -/
theorem Document.validate_toJson (d : Document) : validate d.toJson = .ok () := by
  rw [validate_eq_ok, toJson_eq]
  simp only [schema, admits_node, List.forall_mem_cons, required_present, properties_present]
  simp [Has, Fits, value?, layout, Entries.get?, d.parameters.admits_toJson, DataMap.admits_toJson]

end Validation

/-! ## What is published has no key twice -/

section Merged

/-- A published property has no key twice. -/
theorem Property.isMerged_toJson {p : Property} (h : p.Publishable) : p.toJson.IsMerged := by
  have hi : Holds Json.IsMerged p.items := fun v hv => (h.items v hv).1
  have hs : Holds Json.IsMerged p.standard := fun v hv => (h.standard v hv).1
  rw [toJson_eq]
  refine isMerged_present ?_
  simpa [layout, hi, hs] using h.choices

/-- Published parameters have no key twice, if their names differ. -/
theorem Parameters.isMerged_toJson {p : Parameters} (h : ∀ e ∈ p.properties, e.2.Publishable)
    (hk : (Entries.keys p.properties).Nodup) : p.toJson.IsMerged := by
  have hp : (Json.obj (p.properties.map fun e => (e.1, e.2.toJson))).IsMerged := by
    refine Json.isMerged_obj ?_ (List.forall_mem_map.2 fun e he => ?_)
    · rwa [Entries.keys, List.map_map]
    · exact Property.isMerged_toJson (h e he)
  rw [toJson_eq]
  exact isMerged_present (by simp [layout, hp])

/-- A published output has no key twice. -/
theorem Output.isMerged_toJson {o : Output} (h : o.Publishable) : o.toJson.IsMerged := by
  rw [toJson_eq]
  refine isMerged_present ?_
  simpa [layout] using fun _ => h.actions

/-- A published repetition has no key twice. -/
theorem Foreach.isMerged_toJson (f : Foreach) : f.toJson.IsMerged := by
  rw [toJson_eq]
  exact isMerged_present (by simp [layout])

/-- A published webhook has no key twice, if its headers differ. -/
theorem Webhook.isMerged_toJson {w : Webhook} (h : w.Publishable)
    (hk : (Entries.keys w.headers).Nodup) : w.toJson.IsMerged := by
  have hh : (Json.obj (w.headers.map fun e => (e.1, .str e.2))).IsMerged := by
    refine Json.isMerged_obj ?_ (List.forall_mem_map.2 fun _ _ => Json.isMerged_str)
    rwa [Entries.keys, List.map_map]
  have hp : Holds Json.IsMerged w.params := fun v hv => (h.params v hv).1
  rw [toJson_eq]
  refine isMerged_present ?_
  simpa [layout, hh, hp, Foreach.isMerged_toJson] using
    fun o ho => Output.isMerged_toJson (h.output o ho)

/-- A published rule has no key twice. -/
theorem Rule.isMerged_toJson {r : Rule} (h : r.Publishable) : r.toJson.IsMerged := by
  rw [toJson_eq]
  refine isMerged_present ?_
  simpa [layout, Output.isMerged_toJson h.output] using
    fun o ho => Output.isMerged_toJson (h.otherwise o ho)

/-- A published data map has no key twice, if the headers of each webhook differ. -/
theorem DataMap.isMerged_toJson {m : DataMap} (h : m.Publishable)
    (hk : ∀ w ∈ m.webhooks, (Entries.keys w.headers).Nodup) : m.toJson.IsMerged := by
  have hr : ∀ r ∈ m.rules, r.toJson.IsMerged := fun r hr => Rule.isMerged_toJson (h.rules r hr)
  have hw : ∀ w ∈ m.webhooks, w.toJson.IsMerged := fun w hw =>
    Webhook.isMerged_toJson (h.webhooks w hw) (hk w hw)
  have hf : ∀ o, m.fallback = some o → o.toJson.IsMerged := fun o ho =>
    Output.isMerged_toJson (h.fallback o ho)
  rw [toJson_eq]
  refine isMerged_present ?_
  simpa [layout] using ⟨fun _ => hr, fun _ => hw, hf⟩

/-- The descriptor of a well-formed document is a plain value. -/
theorem Document.isMerged_toJson {d : Document} (h : d.Publishable) (hw : d.WellFormed) :
    d.toJson.IsMerged := by
  have hp := Parameters.isMerged_toJson h.properties hw.parameters.distinct
  have hm : ∀ m, d.dataMap = some m → m.toJson.IsMerged := by
    intro m hm
    refine DataMap.isMerged_toJson (h.dataMap m hm) fun w hwm => ?_
    rcases hw.runs with ⟨hm', -, hwf⟩ | ⟨hm', -, -⟩
    · obtain rfl := Option.some.inj (hm.symm.trans hm')
      -- names that differ in lower case differ
      have hd : (w.headers.map (Text.lowerAscii ∘ Prod.fst)).Nodup :=
        (hwf.webhooks w hwm).headersDistinct
      rw [← List.map_map] at hd
      exact hd.of_map _
    · cases hm.symm.trans hm'
  rw [toJson_eq]
  refine isMerged_present ?_
  simpa [layout, hp] using hm

end Merged

/-! ## The pipeline stands still -/

section FixedPoint

variable {v : Json} {d : Document} {instanceKey : Option String} {t : Tool}

/-- A webhook that can be published can be published as it is sent. -/
theorem Webhook.Publishable.normalized {w : Webhook} (h : w.Publishable) :
    w.normalized.Publishable := by
  unfold Webhook.normalized
  exact ⟨h.params, h.foreach, h.output⟩

/-- A data map that can be published can be published with its webhooks as they are sent. -/
theorem DataMap.Publishable.normalized {m : DataMap} (h : m.Publishable) :
    m.normalized.Publishable where
  rules := h.rules
  webhooks := by
    unfold DataMap.normalized
    exact List.forall_mem_map.2 fun w hw => (h.webhooks w hw).normalized
  fallback := h.fallback

/-- A document that can be published can be published in its normal form. -/
theorem Document.Publishable.normalized (h : d.Publishable) : d.normalized.Publishable where
  properties := h.properties
  dataMap := by
    intro m' hm'
    obtain ⟨m, hm, rfl⟩ := Option.map_eq_some_iff.1 hm'
    exact (h.dataMap m hm).normalized

/-- The normal form of a well-formed data map is in normal form. -/
theorem DataMap.normalized_normalized {m : DataMap} {declared : List String}
    (h : m.WellFormed declared) : m.normalized.normalized = m.normalized := by
  have hw : ∀ w ∈ m.webhooks, w.normalized.normalized = w.normalized := fun w hw => by
    have hm := normalized_method _ (h.webhooks w hw).method
    unfold Webhook.normalized
    rw [hm]
  have hl : m.normalized.webhooks.map Webhook.normalized = m.normalized.webhooks := by
    unfold DataMap.normalized
    rw [List.map_map]
    exact List.map_congr_left hw
  rw [DataMap.normalized, hl]

/-- The normal form of a well-formed document is in normal form. -/
theorem Document.normalized_normalized (hw : d.WellFormed) :
    d.normalized.normalized = d.normalized := by
  have hm : (d.dataMap.map DataMap.normalized).map DataMap.normalized =
      d.dataMap.map DataMap.normalized := by
    rcases hw.runs with ⟨hm, -, hwf⟩ | ⟨hm, -, -⟩
    · rw [hm, Option.map_some, Option.map_some, DataMap.normalized_normalized hwf]
    · rw [hm]
      rfl
  unfold Document.normalized
  rw [hm]

/-- A document that has become a tool is compiled to the same tool in its normal form. -/
theorem Document.compile_normalized (hc : d.compile instanceKey = .ok t) :
    t.document = d.normalized ∧ d.normalized.compile instanceKey = .ok t := by
  -- compiling starts with the normal form, and the normal form is its own
  have hn := normalized_normalized (wellFormed_of_compile hc)
  refine ⟨?_, ?_⟩
  · obtain ⟨_, -, hc⟩ := Except.bind_eq_ok.1 hc
    obtain ⟨_, -, hc⟩ := Except.bind_eq_ok.1 hc
    obtain ⟨r, -, hc⟩ := Except.bind_eq_ok.1 hc
    obtain rfl := Except.ok.inj hc
    rfl
  · unfold compile at hc ⊢
    rw [hn]
    exact hc

/-- **A descriptor is a fixed point.**  The descriptor of a tool whose document was read from
JSON is a plain value that passes validation; read as a document it is the document of the
tool; and compiled again it becomes the tool again, with the same descriptor, parameters
and way to run. -/
theorem Document.descriptor_recompiles (hd : ofJson? v = some d)
    (hc : d.compile instanceKey = .ok t) :
    t.document = d.normalized ∧ t.descriptor.merged = t.descriptor ∧
      validate t.descriptor = .ok () ∧ ofJson? t.descriptor = some t.document ∧
      t.document.compile instanceKey = .ok t := by
  obtain ⟨ht, hcn⟩ := compile_normalized hc
  have hp : t.document.Publishable := ht ▸ (publishable_of_ofJson? hd).normalized
  have hw : t.document.WellFormed := wellFormed_of_compile (ht ▸ hcn)
  exact ⟨ht, isMerged_toJson hp hw, validate_toJson _, ofJson?_toJson hp, ht ▸ hcn⟩

/-- A document under its other names, with a method to be put in upper case. -/
def nameLookup : Json := .obj [
  ("function", .str "lookup"), ("purpose", .str "Looks a name up."),
  ("parameters", .obj [
    ("properties", .obj [
      ("name", .obj [("type", .str "string"), ("default", .null)]),
      ("kind", .obj [("type", .str "string"), ("enum", .arr [.str "a", .str "b"])])]),
    ("required", .arr [.str "name"])]),
  ("data_map", .obj [
    ("expressions", .arr [.obj [("string", .str "$\x7bargs.kind\x7d"), ("pattern", .str "^a$"),
      ("output", .obj [("response", .str "A")]), ("nomatch_output", .null)]]),
    ("webhooks", .arr [.obj [("url", .str "https://x.example/$\x7bargs.name\x7d"),
      ("method", .str " post "), ("headers", .obj [("X-Key", .str "k")]),
      ("params", .obj [("q", .int 1)]),
      ("foreach", .obj [("input_key", .str "items"), ("output_key", .str "found"), ("max", .int 3),
        ("append", .str "$\x7bthis.value\x7d")]),
      ("output", .obj [("response", .str "$\x7bfound\x7d"),
        ("action", .arr [.obj [("say", .str "done")]])])]]),
    ("fallback_output", .obj [("response", .str "Nothing found.")])])]

/-- The descriptor of a tool with parameters, a rule and a webhook is compiled to the tool again. -/
theorem descriptor_of_nameLookup :
    ∃ d t, Document.ofJson? nameLookup = some d ∧ d.compile none = .ok t ∧
      t.document = d.normalized ∧ t.descriptor.merged = t.descriptor ∧
      Document.validate t.descriptor = .ok () ∧
      Document.ofJson? t.descriptor = some t.document ∧ t.document.compile none = .ok t := by
  have h : (Document.ofJson? nameLookup).any fun d => (d.compile none).toOption.isSome := by
    decide +kernel
  obtain ⟨d, hd, ht⟩ := (Option.any_eq_true _ _).1 h
  cases hc : d.compile none with
  | ok t => exact ⟨d, t, hd, hc, Document.descriptor_recompiles hd hc⟩
  | error e => simp [hc, Except.toOption] at ht

end FixedPoint

end AgentTool
