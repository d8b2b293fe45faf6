import AgentTool.Document.Decode
import AgentTool.Proofs.Acceptance
import AgentTool.Proofs.MergedValues

/-!
# Reading records from JSON

A record gives each of its fields once, so for the key of a field there is nothing to
choose, and a record is read alike before and after merging
(`Decode.get?_mergeKeys_of_record`).

What a reader yields from JSON is said by `Yields`, with one rule for each way of putting
readers together.
-/

namespace AgentTool

namespace Decode

/-- A list is read if its items are, one by one. -/
theorem mapM_eq_some {α β : Type} {f : α → Option β} {xs : List α} {ys : List β} :
    xs.mapM f = some ys ↔ List.Forall₂ (fun x y => f x = some y) xs ys := by
  induction xs generalizing ys with
  | nil => simp [eq_comm]
  | cons x xs ih =>
    simp only [List.mapM_cons, Option.bind_eq_bind, Option.bind_eq_some_iff, Option.pure_def,
      Option.some.injEq, List.forall₂_cons_left_iff, ih]
    constructor
    · rintro ⟨y, hy, ys, hys, rfl⟩
      exact ⟨y, ys, hy, hys, rfl⟩
    · rintro ⟨y, ys, hy, hys, rfl⟩
      exact ⟨y, hy, ys, hys, rfl⟩

/-- A list is read as the values that its items are read as. -/
theorem list_arr {α : Type} {read : Reader α} {items : List Json} {as : List α} :
    list read (.ofJson (.arr items)) = some as ↔
      List.Forall₂ (fun v a => read (.ofJson v) = some a) items as := by
  rw [Datum.ofJson, list, Datum.ofItems_eq_map, mapM_eq_some, List.forall₂_map_left_iff]

/-- Only an array is read as a list. -/
theorem eq_arr_of_list {α : Type} {read : Reader α} {v : Json} {as : List α}
    (h : list read (.ofJson v) = some as) : ∃ items, v = .arr items := by
  cases v <;> first | exact ⟨_, rfl⟩ | cases h

/-- A table is read as the values that its entries are read as, at their keys. -/
theorem entries_obj {α : Type} {read : Reader α} {es : List (String × Json)} {as : Entries α} :
    entries read (.ofJson (.obj es)) = some as ↔
      List.Forall₂ (fun e a => e.1 = a.1 ∧ read (.ofJson e.2) = some a.2) es as := by
  rw [Datum.ofJson, entries, Datum.ofEntries_eq_map, mapM_eq_some, List.forall₂_map_left_iff]
  have he (e : String × Json) (a : String × α) :
      ((read (.ofJson e.2)).map fun v => (e.1, v)) = some a ↔
        e.1 = a.1 ∧ read (.ofJson e.2) = some a.2 := by
    cases read (.ofJson e.2) <;> simp [Prod.ext_iff]
  simp only [he]

/-- Only an object is read as entries. -/
theorem eq_obj_of_entries {α : Type} {read : Reader α} {v : Json} {as : Entries α}
    (h : entries read (.ofJson v) = some as) : ∃ es, v = .obj es := by
  cases v <;> first | exact ⟨_, rfl⟩ | cases h

/-- A value other than null is read as itself where null is allowed. -/
theorem nullable_ofJson {α : Type} {read : Reader α} {v : Json} (h : v ≠ .null) :
    nullable read (.ofJson v) = (read (.ofJson v)).map some := by
  cases v <;> first | rfl | exact absurd rfl h

/-! ## Records -/

variable {fields : List (List String)} {es : List (String × Json)} {r : Record} {v : Json}
  {key : String}

/-- The field that a text names, by its first name. -/
def fieldName? (fields : List (List String)) (key : String) : Option String :=
  (fields.find? fun names => names.contains key).bind List.head?

/-- The fields that the entries of an object give. -/
def givenBy (fields : List (List String)) (es : List (String × Json)) : Record :=
  es.filterMap fun e => (fieldName? fields e.1).map fun name => (name, .ofJson e.2)

/-- The fields that an object gives are its entries at the names of the fields. -/
theorem given?_ofEntries : given? fields (Datum.ofEntries es) = some (givenBy fields es) := by
  induction es with
  | nil => rfl
  | cons e es ih =>
    simp only [Datum.ofEntries, given?, ih, givenBy, List.filterMap_cons, fieldOf?, fieldName?]
    cases (fields.find? fun names => names.contains e.1).bind List.head? <;> rfl

/-- An object is a record if it gives no field twice, under whatever names. -/
theorem record?_obj :
    record? fields (.ofJson (.obj es)) = some r ↔
      r = givenBy fields es ∧ (Entries.keys (givenBy fields es)).Nodup := by
  rw [Datum.ofJson, record?, given?_ofEntries, ← Check.firstRepeated?_eq_none]
  change (if _ then _ else _) = _ ↔ _
  cases Entries.firstRepeated? (givenBy fields es) with
  | none => exact ⟨fun h => ⟨(Option.some.inj h).symm, rfl⟩, fun h => h.1 ▸ rfl⟩
  | some name => exact ⟨nofun, nofun⟩

/-- An array is a record if it has no more items than the record has fields. -/
theorem record?_arr {items : List Json} :
    record? fields (.ofJson (.arr items)) = some r ↔
      items.length ≤ fields.length ∧
        r = (fields.filterMap List.head?).zip (items.map Datum.ofJson) := by
  rw [Datum.ofJson, record?, Datum.ofItems_eq_map, List.length_map]
  split
  · rename_i h
    simp [h, eq_comm]
  · rename_i h
    simp [h]

/-- Among renamed entries a name is found where its one key was. -/
theorem get?_filterMap {α β : Type} {es : List (String × α)} {f : String → Option String}
    {g : α → β} {name : String} (h : ∀ k, f k = some name ↔ k = key) :
    Entries.get? name (es.filterMap fun e => (f e.1).map fun n => (n, g e.2)) =
      (Entries.get? key es).map g := by
  induction es with
  | nil => rfl
  | cons e es ih =>
    rw [List.filterMap_cons, Entries.get?]
    by_cases he : e.1 = key
    · rw [if_pos he, (h e.1).2 he]
      simp [Entries.get?]
    · rw [if_neg he, ← ih]
      cases hf : f e.1 with
      | none => rfl
      | some n =>
        have hn : n ≠ name := fun hn => he ((h e.1).1 (hn ▸ hf))
        simp [Entries.get?, hn]

/-- A field that goes by one name. -/
def HasOneName (fields : List (List String)) (key : String) : Prop :=
  [key] ∈ fields ∧ ∀ names ∈ fields, key ∈ names → names = [key]

instance : Decidable (HasOneName fields key) := inferInstanceAs (Decidable (_ ∧ _))

/-- A field with one name is given at that name alone. -/
theorem HasOneName.fieldName?_eq (h : HasOneName fields key) (k : String) :
    fieldName? fields k = some key ↔ k = key := by
  unfold fieldName?
  constructor
  · intro hk
    obtain ⟨names, hf, hh⟩ := Option.bind_eq_some_iff.1 hk
    have hn : k ∈ names := by simpa using List.find?_some hf
    rw [h.2 names (List.mem_of_find?_eq_some hf) (List.mem_of_head? hh)] at hn
    exact List.mem_singleton.1 hn
  · rintro rfl
    cases hf : fields.find? fun names => names.contains k with
    | none => simpa using List.find?_eq_none.1 hf [k] h.1
    | some names =>
      rw [h.2 names (List.mem_of_find?_eq_some hf) (by simpa using List.find?_some hf)]
      rfl

/-- A field that goes by one name is the value of that key. -/
theorem get?_givenBy (h : HasOneName fields key) :
    Entries.get? key (givenBy fields es) = (Entries.get? key es).map .ofJson :=
  get?_filterMap h.fieldName?_eq

/-- A record has at most one entry for a name of a field. -/
theorem ofKey_of_record (hr : record? fields (.ofJson (.obj es)) = some r)
    (hk : (fieldName? fields key).isSome) :
    Entries.ofKey key es = [] ∨ ∃ e, Entries.ofKey key es = [e] := by
  obtain ⟨name, hn⟩ := Option.isSome_iff_exists.1 hk
  -- two entries of the key would give its field twice
  have hp : es.Pairwise fun a b => ¬(a.1 = key ∧ b.1 = key) := by
    have hd := (record?_obj.1 hr).2
    rw [Entries.keys, List.Nodup, List.pairwise_map, givenBy, List.pairwise_filterMap] at hd
    refine hd.imp ?_
    rintro a b hab ⟨ha, hb⟩
    exact hab (name, .ofJson a.2) (by simp [ha, hn]) (name, .ofJson b.2) (by simp [hb, hn]) rfl
  have hf : (Entries.ofKey key es).Pairwise _ := hp.filter fun e => e.1 = key
  have hm : ∀ e ∈ Entries.ofKey key es, e.1 = key := fun e he => by
    simpa using (List.mem_filter.1 he).2
  rcases h : Entries.ofKey key es with _ | ⟨a, _ | ⟨b, _⟩⟩
  · exact .inl rfl
  · exact .inr ⟨a, rfl⟩
  · rw [h] at hf hm
    exact absurd ⟨hm a (by simp), hm b (by simp)⟩ (List.rel_of_pairwise_cons hf (by simp))

/-- The value of a field is the same before and after merging. -/
theorem get?_mergeKeys_of_record (hr : record? fields (.ofJson (.obj es)) = some r)
    (hk : (fieldName? fields key).isSome) :
    Entries.get? key (Json.mergeKeys es) = (Entries.get? key es).map Json.merged := by
  rw [Json.get?_mergeKeys, Entries.get?_eq_head?]
  rcases ofKey_of_record hr hk with h | ⟨e, h⟩ <;> rw [h] <;> rfl

/-! ## What is read from JSON -/

section Yields

variable {α : Type} {read : Reader α} {P : α → Prop}

/-- The values that a reader makes of JSON have a property. -/
def Yields (read : Reader α) (P : α → Prop) : Prop :=
  ∀ v a, read (.ofJson v) = some a → P a

/-- A plain value is read as a merged one. -/
theorem yields_value : Yields value Json.IsMerged := fun v a h => by
  rw [value, Datum.toJson?_ofJson] at h
  exact Option.some.inj h ▸ Json.isMerged_merged v

/-- A natural number is read as one of 64 bits. -/
theorem yields_natural : Yields natural (· < UInt64.size) := fun v n h => by
  cases v with
  | int i =>
    rw [Datum.ofJson, natural] at h
    split at h
    · rename_i hi
      obtain rfl := Option.some.inj h
      omega
    · cases h
  | _ => cases h

/-- What follows from a relation to an item holds of every related item. -/
theorem forall_of_forall₂ {α β : Type} {R : α → β → Prop} {P : β → Prop} {xs : List α}
    {ys : List β} (h : List.Forall₂ R xs ys) (hR : ∀ x y, R x y → P y) : ∀ y ∈ ys, P y := by
  induction h with
  | nil => nofun
  | cons hxy _ ih => exact List.forall_mem_cons.2 ⟨hR _ _ hxy, ih⟩

/-- A list is read as values with the property of the values that are read. -/
theorem Yields.list (h : Yields read P) : Yields (list read) fun as => ∀ a ∈ as, P a := by
  intro v as hv
  obtain ⟨items, rfl⟩ := eq_arr_of_list hv
  exact forall_of_forall₂ (list_arr.1 hv) h

/-- A table is read as values with the property of the values that are read. -/
theorem Yields.entries (h : Yields read P) : Yields (entries read) fun es => ∀ e ∈ es, P e.2 := by
  intro v es hv
  obtain ⟨_, rfl⟩ := eq_obj_of_entries hv
  exact forall_of_forall₂ (entries_obj.1 hv) fun e a ha => h e.2 a.2 ha.2

/-- A record of JSON values. -/
def Record.IsJson (r : Record) : Prop :=
  ∃ es : List (String × Json), r = es.map fun e => (e.1, .ofJson e.2)

/-- The fields of a record that is read from JSON are JSON. -/
theorem isJson_of_record? (hr : record? fields (.ofJson v) = some r) : r.IsJson := by
  cases v with
  | obj es =>
    obtain ⟨rfl, -⟩ := record?_obj.1 hr
    refine ⟨es.filterMap fun e => (fieldName? fields e.1).map fun name => (name, e.2), ?_⟩
    simp [givenBy, List.map_filterMap, Function.comp_def]
  | arr items =>
    obtain ⟨-, rfl⟩ := record?_arr.1 hr
    exact ⟨(fields.filterMap List.head?).zip items, List.zip_map_right⟩
  | _ => cases hr

/-- What is found in a record of JSON is JSON. -/
theorem Record.IsJson.get? (hr : r.IsJson) {x : Datum} (hx : Entries.get? key r = some x) :
    ∃ v, x = .ofJson v := by
  obtain ⟨es, rfl⟩ := hr
  rw [Entries.get?_map] at hx
  obtain ⟨v, -, rfl⟩ := Option.map_eq_some_iff.1 hx
  exact ⟨v, rfl⟩

/-- A required field is read as a value with the property of the values that are read. -/
theorem Yields.required (h : Yields read P) (hr : r.IsJson) {a : α}
    (ha : r.required key read = some a) : P a := by
  obtain ⟨x, hx, ha⟩ := Option.bind_eq_some_iff.1 ha
  obtain ⟨v, rfl⟩ := hr.get? hx
  exact h v a ha

/-- A field with a default is read as a value with the property, if the default has it. -/
theorem Yields.withDefault (h : Yields read P) (hr : r.IsJson) {a d : α} (hd : P d)
    (ha : r.withDefault key read d = some a) : P a := by
  unfold Record.withDefault at ha
  split at ha
  · rename_i x hx
    obtain ⟨v, rfl⟩ := hr.get? hx
    exact h v a ha
  · exact Option.some.inj ha ▸ hd

/-- A field that may be null is read from another value. -/
theorem Yields.optional (h : ∀ v a, v ≠ .null → read (.ofJson v) = some a → P a) (hr : r.IsJson)
    {o : Option α} (ho : r.optional key read = some o) : ∀ a, o = some a → P a := by
  have hn : Yields (nullable read) fun o => ∀ a, o = some a → P a := by
    rintro v _ hv a rfl
    by_cases hnull : v = .null
    · subst hnull
      cases hv
    · rw [nullable_ofJson hnull] at hv
      obtain ⟨b, hb, hab⟩ := Option.map_eq_some_iff.1 hv
      exact h v a hnull (Option.some.inj hab ▸ hb)
  have hnone : ∀ a, (none : Option α) = some a → P a := nofun
  exact hn.withDefault hr hnone ho

end Yields

end Decode

/-! ## Records of a document

What a record that was read holds, field by field. -/

open Decode

variable {v : Datum}

/-- The parameters that are read hold what the fields of their record are read as. -/
theorem Parameters.exists_record {p : Parameters} (h : ofDatum? v = some p) :
    ∃ r, record? [["type"], ["properties"], ["required"]] v = some r ∧
      r.withDefault "type" Decode.text "object" = some p.type ∧
      r.withDefault "properties" (Decode.entries Property.ofDatum?) [] = some p.properties ∧
      r.withDefault "required" (Decode.list Decode.text) [] = some p.required := by
  simp only [ofDatum?, Option.bind_eq_bind, Option.bind_eq_some_iff, Option.pure_def,
    Option.some.injEq] at h
  obtain ⟨r, hr, type, ht, properties, hp, required, hq, rfl⟩ := h
  exact ⟨r, hr, ht, hp, hq⟩

/-- The webhook that is read holds what the fields of its record are read as. -/
theorem Webhook.exists_record {w : Webhook} (h : ofDatum? v = some w) :
    ∃ r, record? [["url"], ["method"], ["headers"], ["params"], ["form_param"],
        ["input_args_as_params"], ["require_args"], ["foreach"], ["output"], ["error_keys"]] v =
          some r ∧
      r.required "url" Decode.text = some w.url ∧
      r.withDefault "method" Decode.text "GET" = some w.method ∧
      r.withDefault "headers" (Decode.entries Decode.text) [] = some w.headers ∧
      r.optional "params" Decode.value = some w.params ∧
      r.optional "form_param" Decode.text = some w.formParam ∧
      r.withDefault "input_args_as_params" Decode.flag false = some w.argsAsParams ∧
      r.withDefault "require_args" (Decode.list Decode.text) [] = some w.requireArgs ∧
      r.optional "foreach" Foreach.ofDatum? = some w.foreach ∧
      r.optional "output" Output.ofDatum? = some w.output ∧
      r.withDefault "error_keys" (Decode.list Decode.text) [] = some w.errorKeys := by
  simp only [ofDatum?, Option.bind_eq_bind, Option.bind_eq_some_iff, Option.pure_def,
    Option.some.injEq] at h
  obtain ⟨r, hr, url, hu, method, hm, headers, hh, params, hp, formParam, hf, argsAsParams, ha,
    requireArgs, hq, foreach, he, output, ho, errorKeys, hk, rfl⟩ := h
  exact ⟨r, hr, hu, hm, hh, hp, hf, ha, hq, he, ho, hk⟩

/-- The data map that is read holds what the fields of its record are read as. -/
theorem DataMap.exists_record {m : DataMap} (h : ofDatum? v = some m) :
    ∃ r, record? [["expressions"], ["webhooks"], ["output", "fallback_output"], ["error_keys"]] v =
        some r ∧
      r.withDefault "expressions" (Decode.list Rule.ofDatum?) [] = some m.rules ∧
      r.withDefault "webhooks" (Decode.list Webhook.ofDatum?) [] = some m.webhooks ∧
      r.optional "output" Output.ofDatum? = some m.fallback ∧
      r.withDefault "error_keys" (Decode.list Decode.text) [] = some m.errorKeys := by
  simp only [ofDatum?, Option.bind_eq_bind, Option.bind_eq_some_iff, Option.pure_def,
    Option.some.injEq] at h
  obtain ⟨r, hr, rules, hrs, webhooks, hws, fallback, hf, errorKeys, hk, rfl⟩ := h
  exact ⟨r, hr, hrs, hws, hf, hk⟩

/-- The document that is read holds what the fields of its record are read as. -/
theorem Document.exists_record {d : Document} (h : ofDatum? v = some d) :
    ∃ r, record? [["function"], ["description", "purpose"], ["parameters"], ["data_map"],
        ["web_hook_url"]] v = some r ∧
      r.required "function" Decode.text = some d.name ∧
      r.withDefault "description" Decode.text "" = some d.description ∧
      r.withDefault "parameters" Parameters.ofDatum? {} = some d.parameters ∧
      r.optional "data_map" DataMap.ofDatum? = some d.dataMap ∧
      r.optional "web_hook_url" Decode.text = some d.webhookUrl := by
  simp only [ofDatum?, Option.bind_eq_bind, Option.bind_eq_some_iff, Option.pure_def,
    Option.some.injEq] at h
  obtain ⟨r, hr, name, hn, description, hd, parameters, hp, dataMap, hm, webhookUrl, hu, rfl⟩ := h
  exact ⟨r, hr, hn, hd, hp, hm, hu⟩

end AgentTool
