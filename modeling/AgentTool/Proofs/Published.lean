import AgentTool.Proofs.Layouts

/-!
# Documents that can be published

The published form of a document loses nothing if its plain values are merged, if a
value that may be absent is not null, and if its numbers have 64 bits
(`Document.Publishable`).  Every document that was read from JSON is of this kind
(`Document.publishable_of_ofJson?`), and reading its published form gives it back
(`Document.ofJson?_toJson`).
-/

namespace AgentTool

open Decode Layout

/-! ## What can be published -/

/-- A property that loses nothing when it is published. -/
structure Property.Publishable (p : Property) : Prop where
  choices : ∀ vs, p.choices = some vs → ∀ v ∈ vs, v.IsMerged
  items : ∀ v, p.items = some v → v.IsMerged ∧ v ≠ .null
  standard : ∀ v, p.standard = some v → v.IsMerged ∧ v ≠ .null

/-- An output that loses nothing when it is published. -/
structure Output.Publishable (o : Output) : Prop where
  actions : ∀ a ∈ o.actions, a.IsMerged

/-- A repetition that loses nothing when it is published. -/
structure Foreach.Publishable (f : Foreach) : Prop where
  most : ∀ n, f.most = some n → n < UInt64.size

/-- A webhook that loses nothing when it is published. -/
structure Webhook.Publishable (w : Webhook) : Prop where
  params : ∀ v, w.params = some v → v.IsMerged ∧ v ≠ .null
  foreach : ∀ f, w.foreach = some f → f.Publishable
  output : ∀ o, w.output = some o → o.Publishable

/-- A rule that loses nothing when it is published. -/
structure Rule.Publishable (r : Rule) : Prop where
  output : r.output.Publishable
  otherwise : ∀ o, r.otherwise = some o → o.Publishable

/-- A data map that loses nothing when it is published. -/
structure DataMap.Publishable (m : DataMap) : Prop where
  rules : ∀ r ∈ m.rules, r.Publishable
  webhooks : ∀ w ∈ m.webhooks, w.Publishable
  fallback : ∀ o, m.fallback = some o → o.Publishable

/-- A document that loses nothing when it is published. -/
structure Document.Publishable (d : Document) : Prop where
  properties : ∀ e ∈ d.parameters.properties, e.2.Publishable
  dataMap : ∀ m, d.dataMap = some m → m.Publishable

/-! ## What is read from JSON can be published -/

/-- An optional plain value is read from one that is not null, and so is not null itself. -/
theorem value_optional (v a : Json) (hv : v ≠ .null) (h : value (.ofJson v) = some a) :
    a.IsMerged ∧ a ≠ .null := by
  refine ⟨yields_value v a h, ?_⟩
  rw [value, Datum.toJson?_ofJson] at h
  obtain rfl := Option.some.inj h
  exact Json.merged_ne_null hv

/-- A property that was read can be published. -/
theorem Property.yields : Yields Property.ofDatum? Property.Publishable := by
  intro v p h
  simp only [ofDatum?, Option.bind_eq_bind, Option.bind_eq_some_iff, Option.pure_def,
    Option.some.injEq] at h
  obtain ⟨r, hr, type, -, description, -, choices, hc, items, hi, standard, hs, rfl⟩ := h
  have hj := isJson_of_record? hr
  exact {
    choices := Yields.optional (fun v vs _ h => yields_value.list v vs h) hj hc
    items := Yields.optional value_optional hj hi
    standard := Yields.optional value_optional hj hs }

/-- The properties of parameters that were read can be published. -/
theorem Parameters.yields :
    Yields Parameters.ofDatum? fun p => ∀ e ∈ p.properties, e.2.Publishable := by
  intro v p h
  obtain ⟨r, hr, -, hp, -⟩ := exists_record h
  exact Property.yields.entries.withDefault (isJson_of_record? hr) (by simp) hp

/-- An output that was read can be published. -/
theorem Output.yields : Yields Output.ofDatum? Output.Publishable := by
  intro v o h
  simp only [ofDatum?, Option.bind_eq_bind, Option.bind_eq_some_iff, Option.pure_def,
    Option.some.injEq] at h
  obtain ⟨r, hr, response, -, actions, ha, postProcess, -, rfl⟩ := h
  exact ⟨yields_value.list.withDefault (isJson_of_record? hr) (by simp) ha⟩

/-- A repetition that was read can be published. -/
theorem Foreach.yields : Yields Foreach.ofDatum? Foreach.Publishable := by
  intro v f h
  simp only [ofDatum?, Option.bind_eq_bind, Option.bind_eq_some_iff, Option.pure_def,
    Option.some.injEq] at h
  obtain ⟨r, hr, input, -, output, -, most, hm, append, -, requireItems, -, rfl⟩ := h
  exact ⟨Yields.optional (fun v n _ h => yields_natural v n h) (isJson_of_record? hr) hm⟩

/-- A webhook that was read can be published. -/
theorem Webhook.yields : Yields Webhook.ofDatum? Webhook.Publishable := by
  intro v w h
  obtain ⟨r, hr, -, -, -, hp, -, -, -, hf, ho, -⟩ := exists_record h
  have hj := isJson_of_record? hr
  exact {
    params := Yields.optional value_optional hj hp
    foreach := Yields.optional (fun v f _ h => Foreach.yields v f h) hj hf
    output := Yields.optional (fun v o _ h => Output.yields v o h) hj ho }

/-- A rule that was read can be published. -/
theorem Rule.yields : Yields Rule.ofDatum? Rule.Publishable := by
  intro v x h
  simp only [ofDatum?, Option.bind_eq_bind, Option.bind_eq_some_iff, Option.pure_def,
    Option.some.injEq] at h
  obtain ⟨r, hr, subject, -, pattern, -, output, ho, otherwise, hn, rfl⟩ := h
  have hj := isJson_of_record? hr
  exact {
    output := Output.yields.required hj ho
    otherwise := Yields.optional (fun v o _ h => Output.yields v o h) hj hn }

/-- A data map that was read can be published. -/
theorem DataMap.yields : Yields DataMap.ofDatum? DataMap.Publishable := by
  intro v m h
  obtain ⟨r, hr, hrs, hws, hf, -⟩ := exists_record h
  have hj := isJson_of_record? hr
  exact {
    rules := Rule.yields.list.withDefault hj (by simp) hrs
    webhooks := Webhook.yields.list.withDefault hj (by simp) hws
    fallback := Yields.optional (fun v o _ h => Output.yields v o h) hj hf }

/-- A document that was read can be published. -/
theorem Document.yields : Yields Document.ofDatum? Document.Publishable := by
  intro v d h
  obtain ⟨r, hr, -, -, hp, hm, -⟩ := exists_record h
  have hj := isJson_of_record? hr
  exact {
    properties := Parameters.yields.withDefault hj (by simp) hp
    dataMap := Yields.optional (fun v m _ h => DataMap.yields v m h) hj hm }

/-- **A document that was read from JSON can be published.** -/
theorem Document.publishable_of_ofJson? {v : Json} {d : Document} (h : ofJson? v = some d) :
    d.Publishable :=
  Document.yields v d h

/-! ## What was published is read as it was -/

/-- The name of a type of parameters is read as the type. -/
theorem ParamType.ofDatum?_name (t : ParamType) : ofDatum? (.ofJson (.str t.name)) = some t := by
  cases t <;> decide

/-- A published property is read as it was. -/
theorem Property.ofDatum?_toJson {p : Property} (h : p.Publishable) :
    ofDatum? (.ofJson p.toJson) = some p := by
  have ht : fieldValue ParamType.ofDatum? none (some (.str p.type.name)) = some p.type :=
    p.type.ofDatum?_name
  have hc : fieldValue (nullable (list value)) (some none) (p.choices.map .arr) = some p.choices :=
    fieldValue_optional fun vs hvs => ⟨nofun, list_value (h.choices vs hvs)⟩
  have hi := fieldValue_optionalValue h.items
  have hs := fieldValue_optionalValue h.standard
  rw [toJson_eq, ofDatum?]
  refine read_present (by decide) rfl fun r hr => ?_
  simp [hr.required, hr.withDefault, hr.optional, value?, layout, Entries.get?, ht, hc, hi, hs]

/-- Published parameters are read as they were. -/
theorem Parameters.ofDatum?_toJson {p : Parameters}
    (h : ∀ e ∈ p.properties, e.2.Publishable) : ofDatum? (.ofJson p.toJson) = some p := by
  have hp : fieldValue (entries Property.ofDatum?) (some [])
      (some (.obj (p.properties.map fun e => (e.1, e.2.toJson)))) = some p.properties :=
    entries_map fun e he => Property.ofDatum?_toJson (h e he)
  rw [toJson_eq, ofDatum?]
  refine read_present (by decide) rfl fun r hr => ?_
  simp [hr.withDefault, value?, layout, Entries.get?, hp]

/-- A published output is read as it was. -/
theorem Output.ofDatum?_toJson {o : Output} (h : o.Publishable) :
    ofDatum? (.ofJson o.toJson) = some o := by
  have ha := fieldValue_values h.actions
  rw [toJson_eq, ofDatum?]
  refine read_present (by decide) rfl fun r hr => ?_
  simp [hr.required, hr.withDefault, value?, layout, Entries.get?, ha]

/-- A number of 64 bits is read as it is. -/
theorem natural_ofJson {n : Nat} (h : n < UInt64.size) : natural (.ofJson (.int n)) = some n := by
  rw [Datum.ofJson, natural, if_pos ⟨by omega, by omega⟩, Int.toNat_natCast]

/-- A published repetition is read as it was. -/
theorem Foreach.ofDatum?_toJson {f : Foreach} (h : f.Publishable) :
    ofDatum? (.ofJson f.toJson) = some f := by
  have hm : fieldValue (nullable natural) (some none) (f.most.map fun n => .int (n : Nat)) =
      some f.most :=
    fieldValue_optional fun n hn => ⟨nofun, natural_ofJson (h.most n hn)⟩
  rw [toJson_eq, ofDatum?]
  refine read_present (by decide) rfl fun r hr => ?_
  simp [hr.required, hr.withDefault, hr.optional, value?, layout, Entries.get?, hm]

/-- A published webhook is read as it was. -/
theorem Webhook.ofDatum?_toJson {w : Webhook} (h : w.Publishable) :
    ofDatum? (.ofJson w.toJson) = some w := by
  have hh : fieldValue (entries text) (some [])
      (keyed (w.headers.map fun e => (e.1, .str e.2))) = some w.headers :=
    fieldValue_keyed fun _ _ => rfl
  have hp := fieldValue_optionalValue h.params
  have hf : fieldValue (nullable Foreach.ofDatum?) (some none) (w.foreach.map Foreach.toJson) =
      some w.foreach :=
    fieldValue_optional fun f hf => ⟨nofun, Foreach.ofDatum?_toJson (h.foreach f hf)⟩
  have ho : fieldValue (nullable Output.ofDatum?) (some none) (w.output.map Output.toJson) =
      some w.output :=
    fieldValue_optional fun o ho => ⟨nofun, Output.ofDatum?_toJson (h.output o ho)⟩
  rw [toJson_eq, ofDatum?]
  refine read_present (by decide) rfl fun r hr => ?_
  simp [hr.required, hr.withDefault, hr.optional, value?, layout, Entries.get?, hh, hp, hf, ho]

/-- A published rule is read as it was. -/
theorem Rule.ofDatum?_toJson {x : Rule} (h : x.Publishable) :
    ofDatum? (.ofJson x.toJson) = some x := by
  have ho : fieldValue Output.ofDatum? none (some x.output.toJson) = some x.output :=
    Output.ofDatum?_toJson h.output
  have hn : fieldValue (nullable Output.ofDatum?) (some none) (x.otherwise.map Output.toJson) =
      some x.otherwise :=
    fieldValue_optional fun o ho => ⟨nofun, Output.ofDatum?_toJson (h.otherwise o ho)⟩
  rw [toJson_eq, ofDatum?]
  refine read_present (by decide) rfl fun r hr => ?_
  simp [hr.required, hr.optional, value?, layout, Entries.get?, ho, hn]

/-- A published data map is read as it was. -/
theorem DataMap.ofDatum?_toJson {m : DataMap} (h : m.Publishable) :
    ofDatum? (.ofJson m.toJson) = some m := by
  have hrs : fieldValue (list Rule.ofDatum?) (some []) (listed (m.rules.map Rule.toJson)) =
      some m.rules :=
    fieldValue_listed fun x hx => Rule.ofDatum?_toJson (h.rules x hx)
  have hws : fieldValue (list Webhook.ofDatum?) (some []) (listed (m.webhooks.map Webhook.toJson)) =
      some m.webhooks :=
    fieldValue_listed fun w hw => Webhook.ofDatum?_toJson (h.webhooks w hw)
  have hf : fieldValue (nullable Output.ofDatum?) (some none) (m.fallback.map Output.toJson) =
      some m.fallback :=
    fieldValue_optional fun o ho => ⟨nofun, Output.ofDatum?_toJson (h.fallback o ho)⟩
  rw [toJson_eq, ofDatum?]
  refine read_present (by decide) rfl fun r hr => ?_
  simp [hr.withDefault, hr.optional, value?, layout, Entries.get?, hrs, hws, hf]

/-- **What was published is read as it was.** -/
theorem Document.ofJson?_toJson {d : Document} (h : d.Publishable) :
    ofJson? d.toJson = some d := by
  have hp : fieldValue Parameters.ofDatum? (some {}) (some d.parameters.toJson) =
      some d.parameters :=
    Parameters.ofDatum?_toJson h.properties
  have hm : fieldValue (Decode.nullable DataMap.ofDatum?) (some none)
      (d.dataMap.map DataMap.toJson) = some d.dataMap :=
    fieldValue_optional fun m hm => ⟨nofun, DataMap.ofDatum?_toJson (h.dataMap m hm)⟩
  rw [ofJson?, toJson_eq, ofDatum?]
  refine read_present (by decide) rfl fun r hr => ?_
  simp [hr.required, hr.withDefault, hr.optional, value?, layout, Entries.get?, hp, hm]

end AgentTool
