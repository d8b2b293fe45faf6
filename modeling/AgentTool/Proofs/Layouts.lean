import AgentTool.Document.Encode
import AgentTool.Proofs.RecordLaws

/-!
# Records as they are published

A published record is an object with some of the fields of the record, in their order.
A `Layout` lists all fields of a record, each with the value that is written or with
none, and what is written are the fields that have one.

| value | left out if |
| --- | --- |
| `listed` | the list is empty |
| `keyed` | there are no entries |
| `flagged` | the flag is false |
| an optional value | there is none |

Reading the object again finds at each field what the layout has there (`Layout.Read`),
so a published record is read field by field.
-/

namespace AgentTool

open Decode

/-- The fields of a record in order, no two of one name, with the values that are written. -/
structure Layout where
  fields : List (String × Option Json)
  distinct : (Entries.keys fields).Nodup := by simp [Entries.keys]

namespace Layout

variable {l : Layout} {key : String} {o : Option Json} {fs : List (String × Option Json)}

/-- The entries of the fields that have a value. -/
def written (fs : List (String × Option Json)) : List (String × Json) :=
  fs.filterMap fun f => f.2.map fun v => (f.1, v)

/-- The entries that are written. -/
def present (l : Layout) : List (String × Json) := written l.fields

/-- The value of a field, if one is written. -/
def value? (l : Layout) (key : String) : Option Json := (Entries.get? key l.fields).join

/-- No fields write nothing. -/
@[simp] theorem written_nil : written [] = [] := rfl

/-- A field is written before the fields behind it, if it has a value. -/
theorem written_cons :
    written ((key, o) :: fs) = (o.map fun v => (key, v)).toList ++ written fs := by
  cases o <;> rfl

/-- A list that is left out when it is empty. -/
def listed (items : List Json) : Option Json := if items.isEmpty then none else some (.arr items)

/-- Entries that are left out when there are none. -/
def keyed (es : List (String × Json)) : Option Json := if es.isEmpty then none else some (.obj es)

/-- A flag that is left out when it is false. -/
def flagged (b : Bool) : Option Json := if b then some (.bool true) else none

/-- The written keys are some of the keys of the layout, in their order. -/
theorem keys_written_sublist : (Entries.keys (written fs)).Sublist (Entries.keys fs) := by
  induction fs with
  | nil => exact .slnil
  | cons f fs ih =>
    obtain ⟨k, _ | v⟩ := f
    · exact ih.cons k
    · exact ih.cons_cons k

/-- A published record has no key twice. -/
theorem nodup_keys_present : (Entries.keys l.present).Nodup :=
  l.distinct.sublist keys_written_sublist

/-- What is published are the fields that have a value. -/
theorem mem_present {e : String × Json} : e ∈ l.present ↔ (e.1, some e.2) ∈ l.fields := by
  simp only [present, written, List.mem_filterMap, Option.map_eq_some_iff]
  constructor
  · rintro ⟨⟨k, _⟩, hf, v, rfl, rfl⟩
    exact hf
  · exact fun h => ⟨_, h, e.2, rfl, rfl⟩

/-- A written record has at each key what its layout has there. -/
theorem get?_written (h : (Entries.keys fs).Nodup) :
    Entries.get? key (written fs) = (Entries.get? key fs).join := by
  induction fs with
  | nil => rfl
  | cons f fs ih =>
    obtain ⟨hk, hfs⟩ := List.nodup_cons.1 h
    obtain ⟨k, o⟩ := f
    rw [written_cons, Entries.get?]
    by_cases he : k = key
    · subst he
      -- a field without a value is not made up for by a later one of its name
      have hn : Entries.get? k fs = none := by
        rw [← Option.not_isSome_iff_eq_none, Check.get?_isSome]
        exact hk
      cases o with
      | none => simpa [hn] using ih hfs
      | some v => simp [Entries.get?]
    · rw [if_neg he, ← ih hfs]
      cases o <;> simp [Entries.get?, he]

/-- What is found among the written entries is what the layout has. -/
theorem get?_present : Entries.get? key l.present = l.value? key := get?_written l.distinct

/-! ## What holds of the values -/

section Holds

variable {P : Json → Prop} {v : Json} {items : List Json} {es : List (String × Json)} {b : Bool}

/-- A value that is written has a property. -/
def Holds (P : Json → Prop) (o : Option Json) : Prop := ∀ v, o = some v → P v

/-- What holds of an optional value that is there holds of the value. -/
@[simp] theorem holds_some : Holds P (some v) ↔ P v :=
  ⟨fun h => h v rfl, fun h _ hv => Option.some.inj hv ▸ h⟩

/-- What holds of a written value holds of what is written from. -/
@[simp] theorem holds_map {α : Type} {f : α → Json} {o : Option α} :
    Holds P (o.map f) ↔ ∀ a, o = some a → P (f a) := by
  cases o <;> simp [Holds]

/-- What holds of a list that may be left out holds of the list, if it has items. -/
@[simp] theorem holds_listed : Holds P (listed items) ↔ (items ≠ [] → P (.arr items)) := by
  cases items <;> simp [Holds, listed]

/-- What holds of an object that may be left out holds of the object, if it has entries. -/
@[simp] theorem holds_keyed : Holds P (keyed es) ↔ (es ≠ [] → P (.obj es)) := by
  cases es <;> simp [Holds, keyed]

/-- What holds of a flag that may be left out holds of the flag, if it is set. -/
@[simp] theorem holds_flagged : Holds P (flagged b) ↔ (b = true → P (.bool true)) := by
  cases b <;> simp [Holds, flagged]

/-- The trivial property holds of every optional value. -/
@[simp] theorem holds_true {o : Option Json} : Holds (fun _ => True) o := fun _ _ => trivial

/-- An object is merged if the values that are written are. -/
theorem isMerged_present (h : ∀ f ∈ l.fields, Holds Json.IsMerged f.2) :
    (Json.obj l.present).IsMerged :=
  Json.isMerged_obj nodup_keys_present fun e he => h _ (mem_present.1 he) e.2 rfl

end Holds

/-! ## Reading what was written -/

section Read

variable {α : Type} {fields : List (List String)} {r : Record} {read : Reader α}

/-- Every field goes by its first name. -/
def WellNamed (fields : List (List String)) : Prop :=
  ∀ k ∈ fields.filterMap List.head?, fieldName? fields k = some k

instance : Decidable (WellNamed fields) := List.decidableBAll _ _

/-- A record that has at each field what the layout has there. -/
def Read (l : Layout) (r : Record) : Prop :=
  ∀ key, Entries.get? key r = (l.value? key).map .ofJson

/-- A value of a field, or what stands for none. -/
def fieldValue (read : Reader α) (absent : Option α) : Option Json → Option α
  | some v => read (.ofJson v)
  | none => absent

/-- **What is written is read as a record again.** -/
theorem read_present {β : Type} {next : Record → Option β} {b : β} (hf : WellNamed fields)
    (hk : Entries.keys l.fields = fields.filterMap List.head?)
    (h : ∀ r, l.Read r → next r = some b) :
    (record? fields (.ofJson (.obj l.present)) >>= next) = some b := by
  -- every key that is written is the first name of its field
  have hg : givenBy fields l.present = l.present.map fun e => (e.1, .ofJson e.2) := by
    rw [givenBy, ← List.filterMap_eq_map]
    refine List.filterMap_congr fun e he => ?_
    have hm : e.1 ∈ Entries.keys l.fields :=
      keys_written_sublist.subset (List.mem_map_of_mem he)
    rw [hf e.1 (hk ▸ hm)]
    rfl
  have hn : (Entries.keys (givenBy fields l.present)).Nodup := by
    rw [hg, Entries.keys, List.map_map]
    exact nodup_keys_present
  refine Option.bind_eq_some_iff.2 ⟨_, record?_obj.2 ⟨rfl, hn⟩, h _ fun key => ?_⟩
  rw [hg, Entries.get?_map, get?_present]

variable (hr : l.Read r)
include hr

/-- A required field is read from what the layout has at its key. -/
theorem Read.required : r.required key read = fieldValue read none (l.value? key) := by
  rw [Record.required, hr key]
  cases l.value? key <;> rfl

/-- A field with a default is read from what the layout has at its key, or is its default. -/
theorem Read.withDefault {d : α} :
    r.withDefault key read d = fieldValue read (some d) (l.value? key) := by
  rw [Record.withDefault, hr key]
  cases l.value? key <;> rfl

/-- An optional field is read from what the layout has at its key, or there is none. -/
theorem Read.optional :
    r.optional key read = fieldValue (nullable read) (some none) (l.value? key) :=
  hr.withDefault

end Read

/-! ## Values of fields -/

section Values

variable {α : Type} {read : Reader α} {f : α → Json}

/-- A written text is read as the text. -/
@[simp] theorem fieldValue_str {absent : Option String} {s : String} :
    fieldValue text absent (some (.str s)) = some s := rfl

/-- A flag is read as what it was, also where it has been left out. -/
@[simp] theorem fieldValue_flagged {b : Bool} :
    fieldValue flag (some false) (flagged b) = some b := by
  cases b <;> rfl

/-- A written list is read item by item. -/
theorem list_map {as : List α} (h : ∀ a ∈ as, read (.ofJson (f a)) = some a) :
    list read (.ofJson (.arr (as.map f))) = some as := by
  rw [list_arr, List.forall₂_map_left_iff, List.forall₂_same]
  exact h

/-- A written object is read entry by entry. -/
theorem entries_map {es : Entries α} (h : ∀ e ∈ es, read (.ofJson (f e.2)) = some e.2) :
    entries read (.ofJson (.obj (es.map fun e => (e.1, f e.2)))) = some es := by
  rw [entries_obj, List.forall₂_map_left_iff, List.forall₂_same]
  exact fun e he => ⟨rfl, h e he⟩

/-- A list is read as what it was, also where it has been left out. -/
theorem fieldValue_listed {as : List α} (h : ∀ a ∈ as, read (.ofJson (f a)) = some a) :
    fieldValue (list read) (some []) (listed (as.map f)) = some as := by
  cases as with
  | nil => rfl
  | cons a as => exact list_map h

/-- A table is read as what it was, also where it has been left out. -/
theorem fieldValue_keyed {es : Entries α} (h : ∀ e ∈ es, read (.ofJson (f e.2)) = some e.2) :
    fieldValue (entries read) (some []) (keyed (es.map fun e => (e.1, f e.2))) = some es := by
  cases es with
  | nil => rfl
  | cons e es => exact entries_map h

/-- A list of texts is read as what it was, also where it has been left out. -/
@[simp] theorem fieldValue_texts {texts : List String} :
    fieldValue (list text) (some []) (listed (texts.map .str)) = some texts :=
  fieldValue_listed fun _ _ => rfl

/-- An optional value is read again if it is not written as null. -/
theorem fieldValue_optional {o : Option α}
    (h : ∀ a, o = some a → f a ≠ .null ∧ read (.ofJson (f a)) = some a) :
    fieldValue (nullable read) (some none) (o.map f) = some o := by
  cases o with
  | none => rfl
  | some a =>
    obtain ⟨hn, ha⟩ := h a rfl
    rw [Option.map_some, fieldValue, nullable_ofJson hn, ha, Option.map_some]

/-- A merged value is read as it is. -/
theorem value_ofJson {v : Json} (h : v.IsMerged) : value (.ofJson v) = some v := by
  rw [value, Datum.toJson?_ofJson, h]

/-- A list of values without repeated keys is read as it is. -/
theorem list_value {vs : List Json} (h : ∀ v ∈ vs, v.IsMerged) :
    list value (.ofJson (.arr vs)) = some vs := by
  simpa using list_map (f := id) fun v hv => value_ofJson (h v hv)

/-- A list of values is read as what it was, also where it has been left out. -/
theorem fieldValue_values {vs : List Json} (h : ∀ v ∈ vs, v.IsMerged) :
    fieldValue (list value) (some []) (listed vs) = some vs := by
  simpa using fieldValue_listed (f := id) fun v hv => value_ofJson (h v hv)

/-- An optional value other than null is read as what it was. -/
theorem fieldValue_optionalValue {o : Option Json}
    (h : ∀ v, o = some v → v.IsMerged ∧ v ≠ .null) :
    fieldValue (nullable value) (some none) o = some o := by
  simpa using fieldValue_optional (f := id) fun v hv => ⟨(h v hv).2, value_ofJson (h v hv).1⟩

/-- An optional text is read as what it was. -/
@[simp] theorem fieldValue_optionalText {o : Option String} :
    fieldValue (nullable text) (some none) (o.map .str) = some o :=
  fieldValue_optional fun _ _ => ⟨nofun, rfl⟩

end Values

end Layout

/-! ## The layouts of documents -/

open Layout

/-- The layout of a property. -/
def Property.layout (p : Property) : Layout where
  fields := [("type", some (.str p.type.name)), ("description", some (.str p.description)),
    ("enum", p.choices.map .arr), ("items", p.items), ("default", p.standard)]

/-- The layout of the parameters. -/
def Parameters.layout (p : Parameters) : Layout where
  fields := [("type", some (.str p.type)),
    ("properties", some (.obj (p.properties.map fun e => (e.1, e.2.toJson)))),
    ("required", listed (p.required.map .str))]

/-- The layout of an output. -/
def Output.layout (o : Output) : Layout where
  fields := [("response", some (.str o.response)), ("action", listed o.actions),
    ("post_process", flagged o.postProcess)]

/-- The layout of a repetition. -/
def Foreach.layout (f : Foreach) : Layout where
  fields := [("input_key", some (.str f.input)), ("output_key", some (.str f.output)),
    ("max", f.most.map fun n => .int (n : Nat)), ("append", some (.str f.append)),
    ("require_items", flagged f.requireItems)]

/-- The layout of a webhook. -/
def Webhook.layout (w : Webhook) : Layout where
  fields := [("url", some (.str w.url)), ("method", some (.str w.method)),
    ("headers", keyed (w.headers.map fun e => (e.1, .str e.2))), ("params", w.params),
    ("form_param", w.formParam.map .str), ("input_args_as_params", flagged w.argsAsParams),
    ("require_args", listed (w.requireArgs.map .str)), ("foreach", w.foreach.map Foreach.toJson),
    ("output", w.output.map Output.toJson), ("error_keys", listed (w.errorKeys.map .str))]

/-- The layout of a rule. -/
def Rule.layout (r : Rule) : Layout where
  fields := [("string", some (.str r.subject)), ("pattern", some (.str r.pattern)),
    ("output", some r.output.toJson), ("nomatch-output", r.otherwise.map Output.toJson)]

/-- The layout of a data map. -/
def DataMap.layout (m : DataMap) : Layout where
  fields := [("expressions", listed (m.rules.map Rule.toJson)),
    ("webhooks", listed (m.webhooks.map Webhook.toJson)),
    ("output", m.fallback.map Output.toJson), ("error_keys", listed (m.errorKeys.map .str))]

/-- The layout of a document. -/
def Document.layout (d : Document) : Layout where
  fields := [("function", some (.str d.name)), ("description", some (.str d.description)),
    ("parameters", some d.parameters.toJson), ("data_map", d.dataMap.map DataMap.toJson),
    ("web_hook_url", d.webhookUrl.map .str)]

section Written

/-- A field for an optional value is written as its layout has it. -/
theorem presentField_eq {α : Type} {key : String} {f : α → Json} {o : Option α} :
    presentField key f o = written [(key, o.map f)] := by
  cases o <;> rfl

/-- A field for a list is written as its layout has it. -/
theorem listField_eq {key : String} {items : List Json} :
    listField key items = written [(key, listed items)] := by
  cases items <;> rfl

/-- A field for a flag is written as its layout has it. -/
theorem flagField_eq {key : String} {b : Bool} : flagField key b = written [(key, flagged b)] := by
  cases b <;> rfl

/-- The field for the headers is written as its layout has it. -/
theorem headersField_eq {headers : Entries String} :
    (if headers.isEmpty then [] else [("headers", .obj (headers.map fun e => (e.1, .str e.2)))]) =
      written [("headers", keyed (headers.map fun e => (e.1, .str e.2)))] := by
  cases headers <;> rfl

/-- A property is published by its layout. -/
theorem Property.toJson_eq (p : Property) : p.toJson = .obj p.layout.present := by
  simp [toJson, layout, present, written_cons, presentField_eq]

/-- The parameters are published by their layout. -/
theorem Parameters.toJson_eq (p : Parameters) : p.toJson = .obj p.layout.present := by
  simp [toJson, layout, present, written_cons, textsField, listField_eq]

/-- An output is published by its layout. -/
theorem Output.toJson_eq (o : Output) : o.toJson = .obj o.layout.present := by
  simp [toJson, layout, present, written_cons, listField_eq, flagField_eq]

/-- A repetition is published by its layout. -/
theorem Foreach.toJson_eq (f : Foreach) : f.toJson = .obj f.layout.present := by
  simp [toJson, layout, present, written_cons, presentField_eq, flagField_eq]

/-- A webhook is published by its layout. -/
theorem Webhook.toJson_eq (w : Webhook) : w.toJson = .obj w.layout.present := by
  rw [toJson, headersField_eq]
  simp [layout, present, written_cons, presentField_eq, listField_eq, flagField_eq, textsField]

/-- A rule is published by its layout. -/
theorem Rule.toJson_eq (r : Rule) : r.toJson = .obj r.layout.present := by
  simp [toJson, layout, present, written_cons, presentField_eq]

/-- A data map is published by its layout. -/
theorem DataMap.toJson_eq (m : DataMap) : m.toJson = .obj m.layout.present := by
  simp [toJson, layout, present, written_cons, presentField_eq, listField_eq, textsField]

/-- A document is published by its layout. -/
theorem Document.toJson_eq (d : Document) : d.toJson = .obj d.layout.present := by
  simp [toJson, layout, present, written_cons, presentField_eq]

end Written

end AgentTool
