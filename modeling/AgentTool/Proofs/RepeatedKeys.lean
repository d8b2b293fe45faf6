import AgentTool.Proofs.JsonText
import AgentTool.Proofs.LoadedDocuments

/-!
# Repeated keys

The properties of the parameters and the headers of a webhook are entries.  What is read of
them has the keys that are written, repeated or not, whether a record is written as an object
or as an array of its fields (`Decode.get?_of_gives`).  So a repeated key reaches the compiler,
which refuses the document (`Document.compile_of_repeats`), in whatever shape the file holds it
(`Source.repeats_refused`).

| entries | names that the compiler takes as equal |
| --- | --- |
| properties | equal names |
| headers | names equal up to ASCII case |

A plain value, such as the default of a parameter, is merged; repeated keys in it are no error.

Entries are read back from their text if there is room for their values and each float in them is
read back; a float may come back changed, and a value that is nested too deep is not read
(`Source.entriesOf_not_written`).
-/

namespace AgentTool

/-! ## Inserting -/

namespace Entries

variable {α : Type} {es : Entries α} {key : String} {value : α}

/-- The value of the first entry of a known key is replaced, and nothing else. -/
theorem insert_of_mem (h : key ∈ keys es) :
    ∃ before old after, es = before ++ (key, old) :: after ∧ key ∉ keys before ∧
      insert es key value = before ++ (key, value) :: after := by
  induction es with
  | nil => cases h
  | cons e es ih =>
    by_cases he : e.1 = key
    · subst he
      exact ⟨[], e.2, es, rfl, by simp [keys], by simp [insert]⟩
    · have hm : key ∈ keys es := (List.mem_cons.1 h).resolve_left (Ne.symm he)
      obtain ⟨before, old, after, hes, hb, hi⟩ := ih hm
      refine ⟨e :: before, old, after, by rw [hes, List.cons_append], ?_, ?_⟩
      · rw [keys, List.map_cons, List.mem_cons, not_or]
        exact ⟨Ne.symm he, hb⟩
      · rw [insert, if_neg he, hi, List.cons_append]

/-- Entries as the object that is written for them. -/
def written (write : α → Json) (es : Entries α) : Json :=
  .obj (es.map fun e => (e.1, write e.2))

end Entries

/-! ## What a value gives -/

/-- A value gives a field: under its name in an object, at its place in an array. -/
def Json.Gives (v : Json) (name : String) (place : Nat) (w : Json) : Prop :=
  (∃ es, v = .obj es ∧ (name, w) ∈ es) ∨ ∃ items, v = .arr items ∧ items[place]? = some w

namespace Decode

variable {α : Type} {read : Reader α} {fields : List (List String)} {name : String} {place : Nat}
  {r : Record} {v w : Json} {a d : α}

/-- A field that goes by one name and has a place of its own. -/
def StandsAt (fields : List (List String)) (name : String) (place : Nat) : Prop :=
  HasOneName fields name ∧ (fields.filterMap List.head?).Nodup ∧
    (fields.filterMap List.head?)[place]? = some name

instance : Decidable (StandsAt fields name place) := inferInstanceAs (Decidable (_ ∧ _))

/-- A name finds what stands at its place. -/
theorem get?_zip {names : List String} {as : List α} (hn : names.Nodup)
    (hi : names[place]? = some name) : Entries.get? name (names.zip as) = as[place]? := by
  induction names generalizing as place with
  | nil => cases hi
  | cons k names ih =>
    obtain ⟨hk, hn⟩ := List.nodup_cons.1 hn
    cases as with
    | nil => rfl
    | cons a as =>
      cases place with
      | zero => exact if_pos (Option.some.inj hi)
      | succ i =>
        have hne : k ≠ name := fun h => hk (h ▸ List.mem_of_getElem? hi)
        exact (if_neg hne).trans (ih hn hi)

/-- **What a value gives for a field is what the record holds for it.** -/
theorem get?_of_gives (hr : record? fields (.ofJson v) = some r) (hf : StandsAt fields name place)
    (hg : v.Gives name place w) : Entries.get? name r = some (.ofJson w) := by
  obtain ⟨hone, hnames, hplace⟩ := hf
  rcases hg with ⟨es, rfl, hw⟩ | ⟨items, rfl, hw⟩
  · rw [(record?_obj.1 hr).1, get?_givenBy hone, Entries.get?_eq_head?]
    have hm : (name, w) ∈ Entries.ofKey name es := List.mem_filter.2 ⟨hw, decide_eq_true rfl⟩
    -- the entry is the only one of its key
    have hk : (fieldName? fields name).isSome = true := by rw [(hone.fieldName?_eq name).2 rfl]; rfl
    rcases ofKey_of_record hr hk with h | ⟨e, h⟩
    · rw [h] at hm
      cases hm
    · rw [h, List.mem_singleton] at hm
      rw [h, ← hm]
      rfl
  · rw [(record?_arr.1 hr).2, get?_zip hnames hplace, List.getElem?_map, hw]
    rfl

/-- A field with a default is read from what the value gives at its name or place. -/
theorem withDefault_of_gives (hr : record? fields (.ofJson v) = some r)
    (hf : StandsAt fields name place) (hg : v.Gives name place w)
    (h : r.withDefault name read d = some a) : read (.ofJson w) = some a := by
  rwa [Record.withDefault, get?_of_gives hr hf hg] at h

/-- An optional field is read from what the value gives at its name or place. -/
theorem optional_of_gives (hr : record? fields (.ofJson v) = some r)
    (hf : StandsAt fields name place) (hg : v.Gives name place w) (hw : w ≠ .null) {o : Option α}
    (h : r.optional name read = some o) : ∃ a, o = some a ∧ read (.ofJson w) = some a := by
  have hn := withDefault_of_gives hr hf hg h
  rw [nullable_ofJson hw] at hn
  obtain ⟨a, ha, rfl⟩ := Option.map_eq_some_iff.1 hn
  exact ⟨a, rfl, ha⟩

/-- Entries that are read have the keys that are written. -/
theorem keys_of_entries {es : List (String × Json)} {as : Entries α}
    (h : entries read (.ofJson (.obj es)) = some as) : Entries.keys as = Entries.keys es := by
  have hes := entries_obj.1 h
  clear h
  induction hes with
  | nil => rfl
  | cons he _ ih =>
    rw [Entries.keys, Entries.keys, List.map_cons, List.map_cons, ← he.1]
    exact congrArg _ ih

/-- An item has a related one. -/
theorem exists_of_forall₂ {α β : Type} {R : α → β → Prop} {xs : List α} {ys : List β} {x : α}
    (h : List.Forall₂ R xs ys) (hx : x ∈ xs) : ∃ y ∈ ys, R x y := by
  induction h with
  | nil => cases hx
  | cons hxy _ ih =>
    rcases List.mem_cons.1 hx with rfl | hx
    · exact ⟨_, List.mem_cons_self, hxy⟩
    · obtain ⟨y, hy, h⟩ := ih hx
      exact ⟨y, List.mem_cons_of_mem _ hy, h⟩

/-! ### Entries that are written -/

variable {write : α → Json} {es : Entries α}

/-- The entries of a text. -/
def entriesOf (read : Reader α) (text : String) : Option (Entries α) :=
  (Json.readEntries? text).bind fun v => entries read (.ofJson v)

/-- Entries are read back, with their repeated keys, if their values are. -/
theorem entries_written (h : ∀ e ∈ es, read (.ofJson (write e.2)) = some e.2) :
    entries read (.ofJson (es.written write)) = some es := by
  rw [Entries.written, entries_obj, List.forall₂_map_left_iff]
  exact List.forall₂_same.2 fun e he => ⟨rfl, h e he⟩

/-- Entries are read back from their text. -/
theorem entriesOf_compact (hl : ∀ e ∈ es, (write e.2).Legible (Json.depthLimit - 1))
    (h : ∀ e ∈ es, read (.ofJson (write e.2)) = some e.2) :
    entriesOf read (es.written write).compact = some es := by
  have hw : (es.written write).Legible Json.depthLimit := .obj (List.forall_mem_map.2 hl)
  rw [entriesOf, Json.readEntries?_compact hw, Option.bind_some, entries_written h]

end Decode

open Decode

/-! ## Documents -/

/-- A document, as it is written, repeats a parameter. -/
def Json.RepeatsParameter (v : Json) : Prop :=
  ∃ block es, v.Gives "parameters" 2 block ∧ block.Gives "properties" 1 (.obj es) ∧
    ¬(Entries.keys es).Nodup

/-- A document, as it is written, repeats a header in a webhook, up to ASCII case. -/
def Json.RepeatsHeader (v : Json) : Prop :=
  ∃ map webhooks w es, v.Gives "data_map" 3 map ∧ map.Gives "webhooks" 1 (.arr webhooks) ∧
    w ∈ webhooks ∧ w.Gives "headers" 2 (.obj es) ∧ ¬((Entries.keys es).map Text.lowerAscii).Nodup

namespace Document

variable {v : Json} {d : Document}

/-- The parameters of a document have the names that are written. -/
theorem keys_properties (h : ofJson? v = some d) {block : Json} {es : List (String × Json)}
    (hb : v.Gives "parameters" 2 block) (he : block.Gives "properties" 1 (.obj es)) :
    Entries.keys d.parameters.properties = Entries.keys es := by
  obtain ⟨r, hr, -, -, hp, -⟩ := exists_record h
  obtain ⟨r, hr, -, hps, -⟩ := Parameters.exists_record (withDefault_of_gives hr (by decide) hb hp)
  exact keys_of_entries (withDefault_of_gives hr (by decide) he hps)

/-- The webhooks of a document are what is written for them, one by one. -/
theorem webhooks_of_gives (h : ofJson? v = some d) {map : Json} {webhooks : List Json}
    (hm : v.Gives "data_map" 3 map) (hw : map.Gives "webhooks" 1 (.arr webhooks)) :
    ∃ m, d.dataMap = some m ∧
      List.Forall₂ (fun w webhook => Webhook.ofJson? w = some webhook) webhooks m.webhooks := by
  have hnull : map ≠ .null := by
    rintro rfl
    rcases hw with ⟨_, h, -⟩ | ⟨_, h, -⟩ <;> cases h
  obtain ⟨r, hr, -, -, -, hd, -⟩ := exists_record h
  obtain ⟨m, hdm, hread⟩ := optional_of_gives hr (by decide) hm hnull hd
  obtain ⟨r, hr, -, hws, -⟩ := DataMap.exists_record hread
  exact ⟨m, hdm, list_arr.1 (withDefault_of_gives hr (by decide) hw hws)⟩

/-- The headers of a webhook have the names that are written. -/
theorem keys_headers {webhook : Webhook} (h : Webhook.ofJson? v = some webhook)
    {es : List (String × Json)} (he : v.Gives "headers" 2 (.obj es)) :
    Entries.keys webhook.headers = Entries.keys es := by
  obtain ⟨r, hr, -, -, hh, -⟩ := Webhook.exists_record h
  exact keys_of_entries (withDefault_of_gives hr (by decide) he hh)

/-- A well-formed document repeats no parameter and no header. -/
theorem not_repeats_of_wellFormed (h : ofJson? v = some d) (hw : d.WellFormed) :
    ¬(v.RepeatsParameter ∨ v.RepeatsHeader) := by
  rintro (⟨block, es, hb, he, hdup⟩ | ⟨map, webhooks, w, es, hm, hws, hmem, he, hdup⟩)
  · exact hdup (keys_properties h hb he ▸ hw.parameters.distinct)
  · obtain ⟨m, hdm, hread⟩ := webhooks_of_gives h hm hws
    obtain ⟨webhook, hmem, hwebhook⟩ := exists_of_forall₂ hread hmem
    cases hw.runs with
    | dataMap hm' _ hwell =>
      obtain rfl := Option.some.inj (hdm.symm.trans hm')
      have hd := (hwell.webhooks webhook hmem).headersDistinct
      rw [← keys_headers hwebhook he, Entries.keys, List.map_map] at hdup
      exact hdup hd
    | localWebhook hnone => cases hdm.symm.trans hnone

/-- **A repeated key is an error.** -/
theorem compile_of_repeats (h : ofJson? v = some d)
    (hr : v.RepeatsParameter ∨ v.RepeatsHeader) (instanceKey : Option String) :
    ∃ e, d.compile instanceKey = .error e := by
  cases hc : d.compile instanceKey with
  | error e => exact ⟨e, rfl⟩
  | ok t => exact absurd hr (not_repeats_of_wellFormed h (wellFormed_of_compile hc))

end Document

/-! ## Texts -/

namespace Source

variable {v : Json} {values : List Json} {ds : List Document} {text : String}

/-- The documents that a value holds, in one of the three shapes of a file. -/
def HeldIn (v : Json) (values : List Json) : Prop :=
  values = [v] ∨ v = .arr values ∨ v.field? "functions" = some (.arr values)

/-- What comes back is what is written in the file, in one of its shapes. -/
theorem says_of_set? (h : set? (.ofJson v) = some ds) :
    ∃ values, HeldIn v values ∧ Says values ds := by
  rcases set?_cases h with hw | ⟨items, rfl, hs⟩ | ⟨d, hd, rfl⟩
  · obtain ⟨es, items, rfl, hf, -, hs⟩ := wrapped?_eq_some hw
    exact ⟨items, .inr (.inr hf), hs⟩
  · exact ⟨items, .inr (.inl rfl), hs⟩
  · exact ⟨[v], .inl rfl, .cons hd .nil⟩

/-- The documents of a text are said by the values that the text holds. -/
theorem says_of_documents (h : documents .json text = .ok ds) :
    ∃ v values, Json.readEntries? text = some v ∧ HeldIn v values ∧ Says values ds := by
  obtain ⟨-, -, -, -, -, hd⟩ := documents_eq_ok.1 h
  simp only [decoded] at hd
  split at hd
  · rename_i ds' hs
    obtain rfl := Except.ok.inj hd
    obtain ⟨v, hv, hset⟩ := Option.bind_eq_some_iff.1 hs
    obtain ⟨values, hheld, hsays⟩ := says_of_set? hset
    exact ⟨v, values, hv, hheld, hsays⟩
  · cases hd

/-- A value is read from its text as it is, so its documents are picked out of the value itself. -/
theorem documents_compact (h : v.Legible Json.depthLimit) :
    documents .json v.compact = .ok ds ↔ ∃ ps, parts v.merged = .ok ps ∧
      (∀ p ∈ ps, Document.validate p = .ok ()) ∧ set? (.ofJson v) = some ds := by
  have hv : value .json v.compact = .ok v.merged := by
    rw [value, Json.read?, Json.readEntries?_compact h, Option.map_some]
  have hd : decoded .json v.compact = .ok ds ↔ set? (.ofJson v) = some ds := by
    rw [decoded, Json.readEntries?_compact h, Option.bind_some]
    cases set? (.ofJson v) <;> simp
  rw [documents_eq_ok, hv, hd]
  constructor
  · rintro ⟨w, ps, hw, hps, hc, hs⟩
    exact ⟨ps, Except.ok.inj hw ▸ hps, hc, hs⟩
  · rintro ⟨ps, hps, hc, hs⟩
    exact ⟨_, ps, rfl, hps, hc, hs⟩

/-- **Repeated keys are kept until they are refused.**  If a text yields documents, these are the
values of the text as it is written, one by one, and those that repeat a parameter or a header
do not compile.  Entries with legible values are read back from their text with the keys they
repeat, and floats with short decimals are legible; there is no first repeated key exactly if the
keys are distinct; and an insertion changes or adds one entry. -/
theorem repeats_refused :
    (∀ text ds, documents .json text = .ok ds →
      ∃ v values, Json.readEntries? text = some v ∧ HeldIn v values ∧
        List.Forall₂ (fun w d => Document.ofJson? w = some d ∧
          (w.RepeatsParameter ∨ w.RepeatsHeader →
            ∀ instanceKey, ∃ e, d.compile instanceKey = .error e)) values ds) ∧
    (∀ (α : Type) (write : α → Json) (read : Reader α) (es : Entries α),
      (∀ e ∈ es, read (.ofJson (write e.2)) = some e.2) →
      (∀ text, Json.readEntries? text = some (es.written write) →
        entriesOf read text = some es) ∧
      ((∀ e ∈ es, (write e.2).Legible (Json.depthLimit - 1)) →
        entriesOf read (es.written write).compact = some es)) ∧
    (∀ es : Entries String, entriesOf Decode.text (es.written .str).compact = some es) ∧
    (∀ (room : Nat) (x : Binary64), x.shortest.IsShort → (Json.float x).Legible room) ∧
    (∀ (α : Type) (es : Entries α),
      Entries.firstRepeated? es = none ↔ (Entries.keys es).Nodup) ∧
    ∀ (α : Type) (es : Entries α) (key : String) (value : α),
      (key ∈ Entries.keys es → ∃ before old after, es = before ++ (key, old) :: after ∧
        key ∉ Entries.keys before ∧ Entries.insert es key value = before ++ (key, value) :: after) ∧
      (key ∉ Entries.keys es → Entries.insert es key value = es ++ [(key, value)]) ∧
      ((Entries.keys es).Nodup → (Entries.keys (Entries.insert es key value)).Nodup) ∧
      ∀ name, Entries.get? name (Entries.insert es key value) =
        if name = key then some value else Entries.get? name es := by
  refine ⟨fun text ds h => ?_, fun α write read es h => ⟨fun text ht => ?_, fun hl => ?_⟩,
    fun es => ?_, fun room x hx => .float (Json.number?_floatText hx),
    fun α es => Check.firstRepeated?_eq_none, fun α es key value => ?_⟩
  · obtain ⟨v, values, hv, hheld, hsays⟩ := says_of_documents h
    exact ⟨v, values, hv, hheld, hsays.imp fun w d hd =>
      ⟨hd, fun hr => Document.compile_of_repeats hd hr⟩⟩
  · rw [entriesOf, ht, Option.bind_some, entries_written h]
  · exact entriesOf_compact hl h
  · exact entriesOf_compact (fun _ _ => .str) fun _ _ => rfl
  · exact ⟨Entries.insert_of_mem, Entries.insert_of_notMem, Entries.nodup_keys_insert,
      fun name => Entries.get?_insert⟩

/-- The float `3e23`: `1e23` is rounded before it is taken three times, and then again. -/
def roundedTwice : Binary64 := (Decimal.nearest? ⟨false, 3, 23⟩).getD default

/-- Empty arrays, one within the other. -/
def nested : Nat → Json
  | 0 => .arr []
  | n + 1 => .arr [nested n]

/-- Nested arrays are legible if there is room for each. -/
theorem legible_nested (n : Nat) : (nested n).Legible (n + 1) := by
  induction n with
  | zero => exact .arr (List.forall_mem_nil _)
  | succ n ih => exact .arr (List.forall_mem_singleton.2 ih)

/-- The float of the one entry of a text. -/
def floatOf? (es : Entries Json) : Option Binary64 :=
  match es with
  | [(_, .float x)] => some x
  | _ => none

/-- **Entries need not be read back from their text**: a float may come back as another one, and a
value may be nested too deep. -/
theorem entriesOf_not_written :
    roundedTwice.shortest = ⟨false, 3, 23⟩ ∧
      entriesOf Decode.value (Entries.written id [("a", .float roundedTwice)]).compact ≠
        some [("a", .float roundedTwice)] ∧
      entriesOf Decode.value (Entries.written id [("a", nested 126)]).compact ≠
        some [("a", nested 126)] := by
  refine ⟨by decide +kernel, fun h => ?_, fun h => ?_⟩
  · have hf : (entriesOf Decode.value
        (Entries.written id [("a", .float roundedTwice)]).compact).bind floatOf? ≠
          some roundedTwice := by
      decide +kernel
    rw [h] at hf
    exact hf rfl
  · have hl : (Entries.written id [("a", nested 126)]).Legible 128 :=
      .obj (List.forall_mem_singleton.2 (legible_nested 126))
    have hn : (Json.ofTokens? (Entries.written id [("a", nested 126)]).tokens).isNone = true := by
      decide +kernel
    rw [entriesOf, hl.readEntries?_eq, Option.isNone_iff_eq_none.1 hn] at h
    cases h

/-- Two documents under `functions`: `a` repeats the parameter `x`, `b` a header. -/
def repeating : Json :=
  .obj [("functions", .arr [
    .obj [("function", .str "a"),
      ("parameters", .obj [("properties", .obj [("x", .obj [("type", .str "string")]),
        ("x", .obj [("type", .str "integer")])])])],
    .obj [("function", .str "b"),
      ("data_map", .obj [("webhooks", .arr [.obj [("url", .str "https://b"),
        ("headers", .obj [("Accept", .str "1"), ("accept", .str "2")])]])])]])]

/-- The documents with repeated keys are legible. -/
theorem legible_repeating : repeating.Legible Json.depthLimit := by
  repeat' first
    | exact .str
    | refine .obj (List.forall_mem_cons.2 ⟨?_, ?_⟩)
    | refine .arr (List.forall_mem_cons.2 ⟨?_, ?_⟩)
    | refine List.forall_mem_cons.2 ⟨?_, ?_⟩
    | exact List.forall_mem_nil _

/-- Both documents come back, and neither compiles. -/
theorem repeating_refused :
    ∃ ds, documents .json repeating.compact = .ok ds ∧ ds.map Document.name = ["a", "b"] ∧
      ∀ d ∈ ds, ∀ instanceKey, ∃ e, d.compile instanceKey = .error e := by
  have hn : (set? (.ofJson repeating)).map (·.map Document.name) = some ["a", "b"] := by
    decide +kernel
  obtain ⟨ds, hs, hn⟩ := Option.map_eq_some_iff.1 hn
  have hd := (documents_compact legible_repeating).2 ⟨_, rfl, by decide +kernel, hs⟩
  refine ⟨ds, hd, hn, ?_⟩
  obtain ⟨v, values, hv, hheld, hall⟩ := repeats_refused.1 _ ds hd
  obtain rfl : v = repeating :=
    Option.some.inj (hv.symm.trans (Json.readEntries?_compact legible_repeating))
  rcases hheld with rfl | h | h
  · -- one value does not say two documents
    have hl : ds.length = 1 := hall.length_eq.symm
    have hl' := congrArg List.length hn
    rw [List.length_map, hl] at hl'
    cases hl'
  · cases h
  · obtain rfl := Json.arr.inj (Option.some.inj h)
    obtain _ | ⟨⟨-, ha⟩, _ | ⟨⟨-, hb⟩, _ | _⟩⟩ := hall
    refine List.forall_mem_cons.2 ⟨ha (.inl ?_), List.forall_mem_singleton.2 (hb (.inr ?_))⟩
    · exact ⟨_, _, .inl ⟨_, rfl, .tail _ (.head _)⟩, .inl ⟨_, rfl, .head _⟩, by decide⟩
    · exact ⟨_, _, _, _, .inl ⟨_, rfl, .tail _ (.head _)⟩, .inl ⟨_, rfl, .head _⟩, .head _,
        .inl ⟨_, rfl, .tail _ (.head _)⟩, by decide⟩

end Source
end AgentTool
