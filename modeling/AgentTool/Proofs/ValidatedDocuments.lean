import AgentTool.Proofs.SchemaLaws
import AgentTool.Proofs.TakenValues

/-!
# What validation leaves open

The schema of documents and the reader of documents describe one format, and they
differ in two ways.  The reader knows second names of three fields, which the schema lets
pass as fields of no meaning; and the schema counts a float without a fraction, and an
integer of any size, among the integers.

| field | the schema admits | the reader takes |
| --- | --- | --- |
| `max` | integers from 0, also as floats | integers of 64 bits |
| `purpose` beside or for `description` | any value | a text, in place of `description` |
| `nomatch_output` beside or for `nomatch-output` | any value | null or an output, in its place |
| `fallback_output` beside or for `output` | any value | null or an output, in its place |

A value that passes validation is read as a document exactly if it is settled in these fields
(`Document.ofJson?_of_validate`).
-/

namespace AgentTool

open Decode

variable {v w : Json} {es : List (String × Json)}

/-! ## What the schema leaves open -/

/-- A field is given under one of its two names, and the second name has a value that fits. -/
structure AliasSettled (first second : String) (fits : Json → Prop) (v : Json) : Prop where
  once : v.field? first = none ∨ v.field? second = none
  fits : ∀ w, v.field? second = some w → fits w

/-- Null or an output. -/
def Output.Optional (v : Json) : Prop := v = .null ∨ (Output.ofJson? v).isSome = true

/-- The most items of an aggregation are null or an integer of 64 bits without sign. -/
def Foreach.Counts (v : Json) : Prop :=
  ∀ w, v.field? "max" = some w → w = .null ∨ ∃ n : Nat, n < UInt64.size ∧ w = .int n

/-- The aggregation of a webhook, if there is one, counts. -/
def Webhook.Settled (v : Json) : Prop :=
  ∀ w, v.field? "foreach" = some w → w = .null ∨ Foreach.Counts w

/-- The output for no match is given once, and is an output. -/
def Rule.Settled (v : Json) : Prop :=
  AliasSettled "nomatch-output" "nomatch_output" Output.Optional v

/-- The items of the list under a key, if there is one. -/
def EachOf (key : String) (P : Json → Prop) (v : Json) : Prop :=
  ∀ items, v.field? key = some (.arr items) → ∀ w ∈ items, P w

/-- Rules and webhooks are settled, and the fallback is given once, and is an output. -/
structure DataMap.Settled (v : Json) : Prop where
  fallback : AliasSettled "output" "fallback_output" Output.Optional v
  rules : EachOf "expressions" Rule.Settled v
  webhooks : EachOf "webhooks" Webhook.Settled v

/-- The description is given once, and is a text, and the data map is settled. -/
structure Document.Settled (v : Json) : Prop where
  description : AliasSettled "description" "purpose" (fun w => ∃ s, w = .str s) v
  dataMap : ∀ w, v.field? "data_map" = some w → w = .null ∨ DataMap.Settled w

/-! ## Schemas and readers -/

section Covers

open Schema Document

variable {α : Type} {read : Reader α} {s : Schema} {note : String}
  {keys : List String} {properties : List (String × Schema)} {r : Record} {key : String}

/-- The reader takes the merged values that the schema admits. -/
def Covers (s : Schema) (read : Reader α) : Prop :=
  ∀ v : Json, v.IsMerged → s.admits v = true → Takes read v

/-- What the schema of a text admits is a text. -/
theorem eq_str_of_text (h : text.admits v = true) : ∃ s, v = .str s := by
  cases v with
  | str s => exact ⟨s, rfl⟩
  | _ => cases h

/-- What is admitted as an array has admitted items. -/
theorem eq_arr_of_items (hm : v.IsMerged) (ht : (Schema.type [.array]).admits v = true)
    (hi : (items s).admits v = true) :
    ∃ vs, v = .arr vs ∧ ∀ w ∈ vs, w.IsMerged ∧ s.admits w = true := by
  cases v with
  | arr vs => exact ⟨vs, rfl, fun w hw => ⟨Json.isMerged_arr.1 hm w hw, admits_items.1 hi w hw⟩⟩
  | _ => cases ht

/-- What is of the kind of objects is an object. -/
theorem eq_obj_of_type (h : (Schema.type [.object]).admits v = true) : ∃ es, v = .obj es := by
  cases v with
  | obj es => exact ⟨es, rfl⟩
  | _ => cases h

/-- What the schema of a record admits is an object. -/
theorem eq_obj_of_object (h : (object note keys properties).admits v = true) :
    ∃ es, v = .obj es := by
  rw [object, admits_node] at h
  exact eq_obj_of_type (h _ (by simp))

/-- Every text that is admitted is read. -/
theorem covers_text : Covers text Decode.text := fun _ _ h => takes_text.2 (eq_str_of_text h)

/-- Every flag that is admitted is read. -/
theorem covers_flag : Covers flag Decode.flag := fun v _ h => by
  cases v with
  | bool b => exact takes_flag.2 ⟨b, rfl⟩
  | _ => cases h

/-- Every value is read as a plain value. -/
theorem covers_value : Covers .anything value := fun _ _ _ => takes_value

/-- Every value is read as an optional plain value. -/
theorem covers_optionalValue : Covers s (Decode.nullable value) :=
  fun _ _ _ => takes_nullable.2 (.inr takes_value)

/-- A list that is admitted is read, if its items are. -/
theorem Covers.list (h : Covers s read) {ss : List Schema} (ht : .type [.array] ∈ ss)
    (hi : .items s ∈ ss) : Covers (.node ss) (list read) := fun v hm ha => by
  rw [admits_node] at ha
  obtain ⟨vs, rfl, hvs⟩ := eq_arr_of_items hm (ha _ ht) (ha _ hi)
  exact takes_list.2 ⟨vs, rfl, fun w hw => h w (hvs w hw).1 (hvs w hw).2⟩

/-- A table that is admitted is read, if its values are. -/
theorem Covers.entries (h : Covers s read) {ss : List Schema} (ht : .type [.object] ∈ ss)
    (hi : .additional s ∈ ss) : Covers (.node ss) (entries read) := fun v hm ha => by
  rw [admits_node] at ha
  obtain ⟨es, rfl⟩ := eq_obj_of_type (ha _ ht)
  have he := ha _ hi
  rw [admits_additional, List.forall_mem_map] at he
  exact takes_entries.2 ⟨es, rfl, fun e hm' => h e.2 (Json.isMerged_of_mem hm hm') (he e hm')⟩

/-- An optional value that is admitted is read, if the value is. -/
theorem Covers.nullable (h : Covers s read) :
    Covers (Document.nullable s) (Decode.nullable read) := fun v hm ha => by
  rw [takes_nullable]
  exact ((admits_nullable.1 ha).imp_left (h v hm)).symm

/-- A remark changes nothing of what is read. -/
theorem Covers.remarked (h : Covers s read) : Covers (Document.remarked note s) read :=
  fun v hm ha => h v hm (by rwa [admits_remarked] at ha)

/-- A default changes nothing of what is read. -/
theorem Covers.standing (h : Covers s read) : Covers (.node [Document.standing w, s]) read :=
  fun v hm ha => h v hm (admits_node.1 ha s (by simp))

/-- Every list of texts that is admitted is read. -/
theorem covers_texts : Covers (.node Document.texts) (Decode.list Decode.text) :=
  covers_text.list (by simp [Document.texts]) (by simp [Document.texts])

/-- A text or null. -/
theorem takes_optionalText (h : (Schema.type [.string, .null]).admits v = true) :
    Takes (Decode.nullable Decode.text) v := by
  rw [takes_nullable, takes_text]
  cases v with
  | null => exact .inl rfl
  | str s => exact .inr ⟨s, rfl⟩
  | _ => cases h

/-- Every optional text that is admitted is read. -/
theorem covers_optionalText :
    Covers (.node [remark note, .type [.string, .null]]) (Decode.nullable Decode.text) :=
  fun _ _ ha => takes_optionalText (admits_node.1 ha _ (by simp))

/-! ## Fields -/

/-- A required field that is there and admitted is read. -/
theorem Covers.required (h : Covers s read) (hm : (Json.obj es).IsMerged)
    (hr : Entries.get? key r = (Entries.get? key es).map .ofJson) (hk : key ∈ Entries.keys es)
    (ha : ∀ v, Entries.get? key es = some v → s.admits v = true) :
    (r.required key read).isSome = true := by
  obtain ⟨v, hv⟩ := Option.isSome_iff_exists.1 (Check.get?_isSome.2 hk)
  exact (isSome_required hr).2 ⟨v, hv, h v (Json.isMerged_of_get? hm hv) (ha v hv)⟩

/-- A field with a default is read, if what it is given is admitted. -/
theorem Covers.withDefault (h : Covers s read) {d : α} (hm : (Json.obj es).IsMerged)
    (hr : Entries.get? key r = (Entries.get? key es).map .ofJson)
    (ha : ∀ v, Entries.get? key es = some v → s.admits v = true) :
    (r.withDefault key read d).isSome = true :=
  (isSome_withDefault hr).2 fun v hv => h v (Json.isMerged_of_get? hm hv) (ha v hv)

/-- What is only returned is there. -/
theorem isSome_pure {a : α} : (pure a : Option α).isSome = true ↔ True := iff_of_true rfl trivial

/-! ## Records without a choice -/

/-- A list of values or null. -/
theorem covers_choices : Covers (.node [.type [.array, .null], .items .anything])
    (Decode.nullable (Decode.list value)) := fun v _ h => by
  rw [takes_nullable, takes_list]
  cases v with
  | null => exact .inl rfl
  | arr vs => exact .inr ⟨vs, rfl, fun _ _ => takes_value⟩
  | _ => cases h

/-- Every output that is admitted is read. -/
theorem covers_output : Covers outputSchema Output.ofDatum? := fun v hm h => by
  rw [outputSchema, admits_named] at h
  obtain ⟨es, rfl⟩ := eq_obj_of_object h
  simp only [admits_object, List.forall_mem_cons] at h
  obtain ⟨⟨hk, -⟩, hactions, hpost, hresponse, -⟩ := h
  refine (isSome_record.trans (and_congr_right fun _ => isSome_bind fun _ => isSome_bind fun _ =>
    isSome_bind fun _ => isSome_pure)).2 ⟨?_, ?_, ?_, ?_, trivial⟩
  · exact SingleNames.nodup (by decide) (Json.nodup_of_isMerged hm)
  · exact covers_text.remarked.required hm (get?_givenBy (by decide)) hk hresponse
  · exact (covers_value.list (by simp) (by simp)).withDefault hm (get?_givenBy (by decide)) hactions
  · exact covers_flag.withDefault hm (get?_givenBy (by decide)) hpost

/-- The names of types that the schema lists are those that are read. -/
theorem covers_paramType : Covers paramTypeSchema ParamType.ofDatum? := fun v _ h => by
  rw [paramTypeSchema, admits_named] at h
  simp only [admits_node, List.forall_mem_cons, admits_choices] at h
  obtain ⟨-, ht, hc, -⟩ := h
  obtain ⟨t, rfl⟩ := eq_str_of_text ht
  simp only [List.any_map, List.any_eq_true] at hc
  obtain ⟨p, hp, hs⟩ := hc
  exact List.find?_isSome.2 ⟨p, hp, hs⟩

/-- Every property that is admitted is read. -/
theorem covers_property : Covers propertySchema Property.ofDatum? := fun v hm h => by
  rw [propertySchema, admits_named] at h
  obtain ⟨es, rfl⟩ := eq_obj_of_object h
  simp only [admits_object, List.forall_mem_cons] at h
  obtain ⟨⟨hk, -⟩, hstandard, hdescription, hchoices, hitems, htype, -⟩ := h
  refine (isSome_record.trans (and_congr_right fun _ => isSome_bind fun _ => isSome_bind fun _ =>
    isSome_bind fun _ => isSome_bind fun _ => isSome_bind fun _ => isSome_pure)).2
      ⟨?_, ?_, ?_, ?_, ?_, ?_, trivial⟩
  · exact SingleNames.nodup (by decide) (Json.nodup_of_isMerged hm)
  · exact covers_paramType.required hm (get?_givenBy (by decide)) hk htype
  · exact covers_text.standing.withDefault hm (get?_givenBy (by decide)) hdescription
  · exact covers_choices.withDefault hm (get?_givenBy (by decide)) hchoices
  · exact covers_optionalValue.withDefault hm (get?_givenBy (by decide)) hitems
  · exact covers_optionalValue.withDefault hm (get?_givenBy (by decide)) hstandard

/-- All parameters that are admitted are read. -/
theorem covers_parameters : Covers parametersSchema Parameters.ofDatum? := fun v hm h => by
  rw [parametersSchema, admits_named] at h
  obtain ⟨es, rfl⟩ := eq_obj_of_object h
  simp only [admits_object, List.forall_mem_cons] at h
  obtain ⟨-, hproperties, hrequired, htype, -⟩ := h
  refine (isSome_record.trans (and_congr_right fun _ => isSome_bind fun _ => isSome_bind fun _ =>
    isSome_bind fun _ => isSome_pure)).2 ⟨?_, ?_, ?_, ?_, trivial⟩
  · exact SingleNames.nodup (by decide) (Json.nodup_of_isMerged hm)
  · exact covers_text.standing.withDefault hm (get?_givenBy (by decide)) htype
  · exact (covers_property.entries (by simp) (by simp)).withDefault hm (get?_givenBy (by decide))
      hproperties
  · exact covers_texts.withDefault hm (get?_givenBy (by decide)) hrequired

/-- The field for the parameters is read if it is admitted. -/
theorem covers_allParameters :
    Covers (.node [Document.standing w, .allOf [parametersSchema]]) Parameters.ofDatum? :=
  fun v hm ha => covers_parameters v hm
    (admits_allOf.1 (admits_node.1 ha (.allOf [parametersSchema]) (by simp)) _ (by simp))

/-! ## Records with a choice -/

variable {P : Json → Prop} {a b : String}

/-- A field is taken if it is null or has the property with which such a value is taken. -/
theorem isSome_optional_iff (hm : (Json.obj es).IsMerged)
    (hr : Entries.get? key r = (Entries.get? key es).map .ofJson)
    (ha : ∀ v, Entries.get? key es = some v → (Document.nullable s).admits v = true)
    (ht : ∀ {v : Json}, v.IsMerged → s.admits v = true → (Takes read v ↔ P v)) :
    (r.optional key read).isSome = true ↔
      ∀ v, (Json.obj es).field? key = some v → v = .null ∨ P v := by
  rw [isSome_optional hr]
  refine forall₂_congr fun v hv => ?_
  rcases admits_nullable.1 (ha v hv) with hs | rfl
  · rw [ht (Json.isMerged_of_get? hm hv) hs]
  · simp

/-- A list is taken if its items have the property with which they are taken. -/
theorem isSome_list_iff {d : List α} (hm : (Json.obj es).IsMerged)
    (hr : Entries.get? key r = (Entries.get? key es).map .ofJson)
    (ha : ∀ v, Entries.get? key es = some v →
      (node [.type [.array], .items s]).admits v = true)
    (ht : ∀ {v : Json}, v.IsMerged → s.admits v = true → (Takes read v ↔ P v)) :
    (r.withDefault key (Decode.list read) d).isSome = true ↔ EachOf key P (.obj es) := by
  have hitems (v : Json) (hv : Entries.get? key es = some v) :
      ∃ vs, v = .arr vs ∧ ∀ w ∈ vs, Takes read w ↔ P w := by
    have hv' := admits_node.1 (ha v hv)
    obtain ⟨vs, rfl, hvs⟩ := eq_arr_of_items (Json.isMerged_of_get? hm hv)
      (hv' _ (by simp)) (hv' (.items s) (by simp))
    exact ⟨vs, rfl, fun w hw => ht (hvs w hw).1 (hvs w hw).2⟩
  rw [isSome_withDefault hr]
  constructor
  · intro h vs hv w hw
    obtain ⟨_, he, htaken⟩ := takes_list.1 (h _ hv)
    obtain ⟨_, he', hP⟩ := hitems _ hv
    obtain rfl := Json.arr.inj he
    obtain rfl := Json.arr.inj he'
    exact (hP w hw).1 (htaken w hw)
  · intro h v hv
    obtain ⟨vs, rfl, hP⟩ := hitems v hv
    exact takes_list.2 ⟨vs, rfl, fun w hw => (hP w hw).2 (h vs hv w hw)⟩

/-- A field with two names is settled if the one that is given is. -/
theorem aliasSettled_iff (ha : ∀ w, Entries.get? a es = some w → P w) :
    AliasSettled a b P (.obj es) ↔
      (Entries.get? a es = none ∨ Entries.get? b es = none) ∧
        ∀ w, (Entries.get? a es).or (Entries.get? b es) = some w → P w := by
  constructor
  · rintro ⟨hd, hb⟩
    refine ⟨hd, fun w hw => ?_⟩
    rcases Option.or_eq_some_iff.1 hw with hw | ⟨-, hw⟩
    · exact ha w hw
    · exact hb w hw
  · rintro ⟨hd, hw⟩
    refine ⟨hd, fun w hb => hw w ?_⟩
    have hn : Entries.get? a es = none :=
      hd.resolve_right (ne_of_eq_of_ne hb (Option.some_ne_none w))
    rw [hn, Option.none_or]
    exact hb

/-- What the schema admits as an output or null fits. -/
theorem optional_of_admits (hm : (Json.obj es).IsMerged)
    (ha : ∀ v, Entries.get? key es = some v → (Document.nullable outputSchema).admits v = true) :
    ∀ w, Entries.get? key es = some w → Output.Optional w := fun w hw =>
  takes_nullable.1 (covers_output.nullable w (Json.isMerged_of_get? hm hw) (ha w hw))

/-- An aggregation is taken if its most items are. -/
theorem takes_foreach (hm : v.IsMerged) (h : foreachSchema.admits v = true) :
    Takes Foreach.ofDatum? v ↔ Foreach.Counts v := by
  rw [foreachSchema, admits_named] at h
  obtain ⟨es, rfl⟩ := eq_obj_of_object h
  simp only [admits_object, List.forall_mem_cons] at h
  obtain ⟨⟨hka, hki, hko, -⟩, happend, hinput, -, houtput, hrequire, -⟩ := h
  have hmost {r : Record} (hr : Entries.get? "max" r = (Entries.get? "max" es).map .ofJson) :
      (r.optional "max" natural).isSome = true ↔ Foreach.Counts (.obj es) := by
    simp only [isSome_optional hr, takes_natural]
    rfl
  refine (isSome_record.trans (and_congr_right fun _ => isSome_bind fun _ => isSome_bind fun _ =>
    isSome_bind fun _ => isSome_bind fun _ => isSome_bind fun _ => isSome_pure)).trans ?_
  rw [hmost (get?_givenBy (by decide))]
  refine ⟨fun h => h.2.2.2.1, fun hc => ⟨?_, ?_, ?_, hc, ?_, ?_, trivial⟩⟩
  · exact SingleNames.nodup (by decide) (Json.nodup_of_isMerged hm)
  · exact covers_text.remarked.required hm (get?_givenBy (by decide)) hki hinput
  · exact covers_text.remarked.required hm (get?_givenBy (by decide)) hko houtput
  · exact covers_text.remarked.required hm (get?_givenBy (by decide)) hka happend
  · exact covers_flag.remarked.withDefault hm (get?_givenBy (by decide)) hrequire

/-- A webhook is taken if its aggregation is. -/
theorem takes_webhook (hm : v.IsMerged) (h : webhookSchema.admits v = true) :
    Takes Webhook.ofDatum? v ↔ Webhook.Settled v := by
  rw [webhookSchema, admits_named] at h
  obtain ⟨es, rfl⟩ := eq_obj_of_object h
  simp only [admits_object, List.forall_mem_cons] at h
  obtain ⟨⟨hk, -⟩, hkeys, hforeach, hform, hheaders, hinput, hmethod, houtput, -, hrequire, hurl, -⟩ := h
  refine (isSome_record.trans (and_congr_right fun _ => isSome_bind fun _ => isSome_bind fun _ =>
    isSome_bind fun _ => isSome_bind fun _ => isSome_bind fun _ => isSome_bind fun _ =>
    isSome_bind fun _ => isSome_bind fun _ => isSome_bind fun _ => isSome_bind fun _ =>
    isSome_pure)).trans ?_
  rw [isSome_optional_iff hm (get?_givenBy (by decide)) hforeach takes_foreach]
  refine ⟨fun h => h.2.2.2.2.2.2.2.2.1,
    fun hf => ⟨?_, ?_, ?_, ?_, ?_, ?_, ?_, ?_, hf, ?_, ?_, trivial⟩⟩
  · exact SingleNames.nodup (by decide) (Json.nodup_of_isMerged hm)
  · exact covers_text.required hm (get?_givenBy (by decide)) hk hurl
  · exact covers_text.standing.withDefault hm (get?_givenBy (by decide)) hmethod
  · exact (covers_text.entries (by simp) (by simp)).withDefault hm (get?_givenBy (by decide))
      hheaders
  · exact (isSome_optional (get?_givenBy (by decide))).2 fun _ _ => .inr takes_value
  · exact covers_optionalText.withDefault hm (get?_givenBy (by decide)) hform
  · exact covers_flag.withDefault hm (get?_givenBy (by decide)) hinput
  · exact covers_texts.withDefault hm (get?_givenBy (by decide)) hrequire
  · exact covers_output.nullable.withDefault hm (get?_givenBy (by decide)) houtput
  · exact covers_texts.withDefault hm (get?_givenBy (by decide)) hkeys

/-- A rule is taken if its output for no match is. -/
theorem takes_rule (hm : v.IsMerged) (h : ruleSchema.admits v = true) :
    Takes Rule.ofDatum? v ↔ Rule.Settled v := by
  rw [ruleSchema, admits_named] at h
  obtain ⟨es, rfl⟩ := eq_obj_of_object h
  simp only [admits_object, List.forall_mem_cons] at h
  obtain ⟨⟨hko, hkp, hks, -⟩, hotherwise, houtput, hpattern, hsubject, -⟩ := h
  have ha : HasAlias [["string"], ["pattern"], ["output"], ["nomatch-output", "nomatch_output"]]
      "nomatch-output" "nomatch_output" := by decide
  refine (isSome_record.trans (and_congr_right fun _ => isSome_bind fun _ => isSome_bind fun _ =>
    isSome_bind fun _ => isSome_bind fun _ => isSome_pure)).trans ?_
  rw [ha.nodup_iff (Json.nodup_of_isMerged hm), Rule.Settled,
    aliasSettled_iff (optional_of_admits hm hotherwise)]
  refine and_congr_right fun hd => ?_
  rw [isSome_optional (ha.get?_givenBy hd)]
  refine ⟨fun h => h.2.2.2.1, fun hf => ⟨?_, ?_, ?_, hf, trivial⟩⟩
  · exact covers_text.remarked.required hm (get?_givenBy (by decide)) hks hsubject
  · exact covers_text.remarked.required hm (get?_givenBy (by decide)) hkp hpattern
  · exact covers_output.required hm (get?_givenBy (by decide)) hko houtput

/-- A data map is taken if its rules, its webhooks and its fallback are. -/
theorem takes_dataMap (hm : v.IsMerged) (h : dataMapSchema.admits v = true) :
    Takes DataMap.ofDatum? v ↔ DataMap.Settled v := by
  rw [dataMapSchema, admits_named] at h
  obtain ⟨es, rfl⟩ := eq_obj_of_object h
  simp only [admits_object, List.forall_mem_cons] at h
  obtain ⟨-, hkeys, hrules, hfallback, hwebhooks, -⟩ := h
  have ha : HasAlias [["expressions"], ["webhooks"], ["output", "fallback_output"], ["error_keys"]]
      "output" "fallback_output" := by decide
  simp only [admits_remarked] at hfallback
  refine (isSome_record.trans (and_congr_right fun _ => isSome_bind fun _ => isSome_bind fun _ =>
    isSome_bind fun _ => isSome_bind fun _ => isSome_pure)).trans ?_
  rw [ha.nodup_iff (Json.nodup_of_isMerged hm),
    isSome_list_iff hm (get?_givenBy (by decide)) hrules takes_rule,
    isSome_list_iff hm (get?_givenBy (by decide)) hwebhooks takes_webhook]
  constructor
  · rintro ⟨hd, hr, hw, hf, -, -⟩
    exact ⟨(aliasSettled_iff (optional_of_admits hm hfallback)).2
      ⟨hd, (isSome_optional (ha.get?_givenBy hd)).1 hf⟩, hr, hw⟩
  · rintro ⟨hs, hr, hw⟩
    obtain ⟨hd, hf⟩ := (aliasSettled_iff (optional_of_admits hm hfallback)).1 hs
    exact ⟨hd, hr, hw, (isSome_optional (ha.get?_givenBy hd)).2 hf,
      (covers_text.list (by simp [Document.texts]) (by simp [Document.texts])).withDefault hm
        (get?_givenBy (by decide)) hkeys, trivial⟩

/-- A document is taken if its description and its data map are. -/
theorem takes_document (hm : v.IsMerged) (h : Document.schema.admits v = true) :
    Takes Document.ofDatum? v ↔ Document.Settled v := by
  obtain ⟨es, rfl⟩ := Document.eq_obj_of_validate (Document.validate_eq_ok.2 h)
  rw [Document.schema, admits_node] at h
  simp only [List.forall_mem_cons, admits_required, admits_properties] at h
  obtain ⟨-, -, -, -, ⟨hk, -⟩, ⟨hmap, hdescription, hname, hparameters, haddress, -⟩, -⟩ := h
  have ha : HasAlias [["function"], ["description", "purpose"], ["parameters"], ["data_map"],
      ["web_hook_url"]] "description" "purpose" := by decide
  refine (isSome_record.trans (and_congr_right fun _ => isSome_bind fun _ => isSome_bind fun _ =>
    isSome_bind fun _ => isSome_bind fun _ => isSome_bind fun _ => isSome_pure)).trans ?_
  rw [ha.nodup_iff (Json.nodup_of_isMerged hm),
    isSome_optional_iff hm (get?_givenBy (by decide)) hmap takes_dataMap]
  have hfits : ∀ w, Entries.get? "description" es = some w → ∃ s, w = .str s := fun w hw =>
    eq_str_of_text (admits_node.1 (hdescription w hw) text (by simp))
  constructor
  · rintro ⟨hd, -, hs, -, hm, -, -⟩
    refine ⟨(aliasSettled_iff hfits).2 ⟨hd, fun w hw => ?_⟩, hm⟩
    exact takes_text.1 ((isSome_withDefault (ha.get?_givenBy hd)).1 hs w hw)
  · rintro ⟨hs, hmap⟩
    obtain ⟨hd, hs⟩ := (aliasSettled_iff hfits).1 hs
    refine ⟨hd, ?_, ?_, ?_, hmap, ?_, trivial⟩
    · exact covers_text.required hm (get?_givenBy (by decide)) hk hname
    · exact (isSome_withDefault (ha.get?_givenBy hd)).2 fun w hw => takes_text.2 (hs w hw)
    · exact covers_allParameters.withDefault hm (get?_givenBy (by decide)) hparameters
    · exact covers_optionalText.withDefault hm (get?_givenBy (by decide)) haddress

end Covers

/-- **Validation leaves open the second names and the size of numbers.**  A merged value that
passes validation is read as a document exactly if it is settled. -/
theorem Document.ofJson?_of_validate (hm : v.IsMerged) (hv : Document.validate v = .ok ()) :
    (∃ d, Document.ofJson? v = some d) ↔ Document.Settled v := by
  rw [← takes_document hm (Document.validate_eq_ok.1 hv)]
  exact Option.isSome_iff_exists.symm

/-- A document that uses the second names, with the most items of its aggregation. -/
def Document.counted (most : Json) : Json :=
  .obj [("function", .str "list"), ("purpose", .str "Lists."),
    ("data_map", .obj [
      ("expressions", .arr [.obj [("string", .str "$\x7bargs.q\x7d"), ("pattern", .str "^$"),
        ("output", .obj [("response", .str "all")]), ("nomatch_output", .null)]]),
      ("webhooks", .arr [.obj [("url", .str "https://h/list"),
        ("foreach", .obj [("input_key", .str "items"), ("output_key", .str "text"),
          ("append", .str "$\x7bthis\x7d"), ("max", most)]),
        ("output", .obj [("response", .str "$\x7btext\x7d")])]]),
      ("fallback_output", .obj [("response", .str "none")])]),
    ("parameters", .obj [("properties", .obj [("q", .obj [("type", .str "string")])])])]

/-- A document with second names and a bound passes validation and is settled. -/
theorem Document.settled_of_counted :
    (counted (.int 3)).IsMerged ∧ validate (counted (.int 3)) = .ok () ∧
      Settled (counted (.int 3)) := by
  have hm : (counted (.int 3)).IsMerged := by rfl
  have hv : validate (counted (.int 3)) = .ok () := by rfl
  have hd : (ofJson? (counted (.int 3))).isSome = true := by rfl
  exact ⟨hm, hv, (ofJson?_of_validate hm hv).1 (Option.isSome_iff_exists.1 hd)⟩

/-- The number `3.0`. -/
def Document.floatThree : Binary64 := ⟨false, 3 * Nat.pow 2 51, -51, by decide⟩

/-- **A count may be written as a float.**  The document whose count is `3.0` passes validation and
is not read. -/
theorem Document.validate_of_floatCount :
    (counted (.float floatThree)).IsMerged ∧ validate (counted (.float floatThree)) = .ok () ∧
      ofJson? (counted (.float floatThree)) = none := by
  refine ⟨?_, ?_, ?_⟩ <;> rfl

end AgentTool
