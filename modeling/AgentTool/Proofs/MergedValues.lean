import AgentTool.Document.Datum
import AgentTool.Proofs.ScopeLaws
import Mathlib.Data.List.Nodup

/-!
# Merged values

Merging an object keeps, for each key, the first position and the last value; looking a
key up finds the first value.  After merging every key is there once, at every depth, so
merging again changes nothing (`Json.isMerged_merged`).  A value read from a file
is merged as a plain value (`Datum.toJson?_ofJson`), so what is merged is read as it is.

| of a key in | finds |
| --- | --- |
| entries as written | the first value (`Entries.get?_eq_head?`) |
| merged entries | the last value (`Json.get?_mergeKeys`) |
-/

namespace AgentTool

namespace Entries

variable {α β : Type} {key : String} {v : α} {e : String × α} {es acc new : List (String × α)}

/-! ## Looking up -/

/-- The entries of a key. -/
def ofKey (key : String) (es : List (String × α)) : List (String × α) :=
  es.filter fun e => e.1 = key

/-- Looking a key up finds the first of its entries. -/
theorem get?_eq_head? : get? key es = (ofKey key es).head?.map (·.2) := by
  induction es with
  | nil => rfl
  | cons e es ih =>
    rw [get?, ofKey, List.filter_cons]
    by_cases he : e.1 = key
    · simp [he]
    · simpa [he, ofKey] using ih

/-- Changing the values of entries keeps the entries of each key. -/
theorem ofKey_map {g : α → β} :
    ofKey key (es.map fun e => (e.1, g e.2)) = (ofKey key es).map fun e => (e.1, g e.2) := by
  simp [ofKey, List.filter_map, Function.comp_def]

/-- Changing the values of entries changes the value that is found. -/
theorem get?_map {g : α → β} :
    get? key (es.map fun e => (e.1, g e.2)) = (get? key es).map g := by
  rw [get?_eq_head?, get?_eq_head?, ofKey_map, List.head?_map, Option.map_map, Option.map_map]
  rfl

/-- Insertion one after the other leaves each key at its last value. -/
theorem get?_insertAll :
    get? key (insertAll acc new) = ((ofKey key new).getLast?.map (·.2)).or (get? key acc) := by
  induction new generalizing acc with
  | nil => rfl
  | cons e new ih =>
    rw [insertAll, List.foldl_cons, ← insertAll, ih, get?_insert, ofKey, ofKey, List.filter_cons]
    by_cases he : e.1 = key
    · simp only [he, decide_true, if_true]
      cases hl : List.filter (fun e => decide (e.1 = key)) new with
      | nil => rfl
      | cons u us => simp [List.getLast?_cons]
    · simp [he, Ne.symm he]

/-! ## Keys -/

/-- A new key goes to the end. -/
theorem insert_of_notMem (h : key ∉ keys es) : insert es key v = es ++ [(key, v)] := by
  induction es with
  | nil => rfl
  | cons e es ih =>
    rw [keys, List.map_cons, List.mem_cons, not_or] at h
    rw [insert, if_neg (Ne.symm h.1), ih h.2, List.cons_append]

/-- A known key stays where it is. -/
theorem keys_insert_of_mem (h : key ∈ keys es) : keys (insert es key v) = keys es := by
  induction es with
  | nil => cases h
  | cons e es ih =>
    rw [insert]
    split
    · rename_i he
      simp [keys, he]
    · rename_i he
      have hm : key ∈ keys es := (List.mem_cons.1 h).resolve_left (Ne.symm he)
      rw [keys, keys, List.map_cons, List.map_cons, ← keys, ← keys, ih hm]

/-- An entry behind an insertion has been there before or is the one inserted. -/
theorem mem_insert (h : e ∈ insert es key v) : e ∈ es ∨ e = (key, v) := by
  induction es with
  | nil => exact .inr (List.mem_singleton.1 h)
  | cons u es ih =>
    rw [insert] at h
    split at h
    · rename_i hu
      rcases List.mem_cons.1 h with rfl | h
      · exact .inr (by rw [← hu])
      · exact .inl (List.mem_cons_of_mem u h)
    · rcases List.mem_cons.1 h with rfl | h
      · exact .inl List.mem_cons_self
      · exact (ih h).imp_left (List.mem_cons_of_mem u)

/-- Inserting an entry repeats no key. -/
theorem nodup_keys_insert (h : (keys es).Nodup) : (keys (insert es key v)).Nodup := by
  by_cases hk : key ∈ keys es
  · rwa [keys_insert_of_mem hk]
  · rw [insert_of_notMem hk, keys, List.map_append, ← keys, List.map_singleton,
      ← List.concat_eq_append, List.nodup_concat]
    exact ⟨hk, h⟩

/-- Insertion leaves no key twice. -/
theorem nodup_keys_insertAll (h : (keys acc).Nodup) : (keys (insertAll acc new)).Nodup := by
  induction new generalizing acc with
  | nil => exact h
  | cons e new ih => exact ih (nodup_keys_insert h)

/-- An entry behind several insertions has been there before or is one of those inserted. -/
theorem mem_insertAll (h : e ∈ insertAll acc new) : e ∈ acc ∨ e ∈ new := by
  induction new generalizing acc with
  | nil => exact .inl h
  | cons u new ih =>
    rcases ih h with h | h
    · rcases mem_insert h with h | rfl
      · exact .inl h
      · exact .inr List.mem_cons_self
    · exact .inr (List.mem_cons_of_mem u h)

/-- Entries with distinct keys are inserted as they are. -/
theorem insertAll_of_nodup (h : (keys (acc ++ new)).Nodup) : insertAll acc new = acc ++ new := by
  induction new generalizing acc with
  | nil => exact (List.append_nil acc).symm
  | cons e new ih =>
    have hk : e.1 ∉ keys acc := by
      rw [keys, List.map_append, List.nodup_append] at h
      exact fun hm => h.2.2 _ hm _ List.mem_cons_self rfl
    rw [insertAll, List.foldl_cons, insert_of_notMem hk, ← insertAll, ih]
    · rw [List.append_assoc]; rfl
    · rwa [List.append_assoc]

end Entries

/-! ## Values -/

namespace Json

variable {v : Json} {items : List Json} {es : List (String × Json)}

/-- Items are merged one by one. -/
theorem mergedItems_eq_map (items : List Json) : mergedItems items = items.map merged := by
  induction items with
  | nil => rfl
  | cons v vs ih => rw [mergedItems, ih, List.map_cons]

/-- The values of entries are merged one by one. -/
theorem mergedEntries_eq_map (es : List (String × Json)) :
    mergedEntries es = es.map fun e => (e.1, e.2.merged) := by
  induction es with
  | nil => rfl
  | cons e es ih => rw [mergedEntries, ih, List.map_cons]

/-- A list is merged item by item. -/
theorem merged_arr (items : List Json) : (arr items).merged = arr (items.map merged) := by
  rw [merged, mergedItems_eq_map]

/-- The entries of a merged object. -/
def mergeKeys (es : List (String × Json)) : List (String × Json) :=
  Entries.insertAll [] (es.map fun e => (e.1, e.2.merged))

/-- An object is merged in its values and in its keys. -/
theorem merged_obj (es : List (String × Json)) : (obj es).merged = obj (mergeKeys es) := by
  rw [merged, mergedEntries_eq_map, mergeKeys]

/-- Merging makes no value null. -/
theorem merged_ne_null (h : v ≠ .null) : v.merged ≠ .null := by
  cases v with
  | null => exact absurd rfl h
  | arr items => simp [merged_arr]
  | obj es => simp [merged_obj]
  | _ => simp [merged]

/-- A merged object has the last value of each key, merged. -/
theorem get?_mergeKeys {key : String} :
    Entries.get? key (mergeKeys es) = (Entries.ofKey key es).getLast?.map fun e => e.2.merged := by
  rw [mergeKeys, Entries.get?_insertAll, Entries.ofKey_map, List.getLast?_map, Option.map_map]
  exact Option.or_none

/-- Merging drops no key. -/
theorem get?_mergeKeys_eq_none {key : String} :
    Entries.get? key (mergeKeys es) = none ↔ Entries.get? key es = none := by
  rw [get?_mergeKeys, Entries.get?_eq_head?, Option.map_eq_none_iff, Option.map_eq_none_iff,
    List.getLast?_eq_none_iff, List.head?_eq_none_iff]

/-- A value that no merging changes: no object in it has a key twice. -/
def IsMerged (v : Json) : Prop := v.merged = v

/-- A text is merged. -/
@[simp] theorem isMerged_str {s : String} : (str s).IsMerged := rfl

/-- A flag is merged. -/
@[simp] theorem isMerged_bool {b : Bool} : (bool b).IsMerged := rfl

/-- A whole number is merged. -/
@[simp] theorem isMerged_int {n : Int} : (int n).IsMerged := rfl

/-- A list is merged exactly if its items are. -/
@[simp] theorem isMerged_arr : (arr items).IsMerged ↔ ∀ v ∈ items, v.IsMerged := by
  have h := List.map_inj_left (l := items) (f := merged) (g := id)
  rw [List.map_id] at h
  rw [IsMerged, merged_arr, arr.injEq, h]
  rfl

/-- An object is merged if its keys differ and its values are merged. -/
theorem isMerged_obj (hk : (Entries.keys es).Nodup) (hv : ∀ e ∈ es, e.2.IsMerged) :
    (obj es).IsMerged := by
  have hm : es.map (fun e => (e.1, e.2.merged)) = es.map id :=
    List.map_congr_left fun e he => Prod.ext rfl (hv e he)
  have hi : Entries.insertAll [] es = es := Entries.insertAll_of_nodup hk
  rw [IsMerged, merged_obj, mergeKeys, hm, List.map_id, hi]

mutual

/-- **Merging twice is merging once.** -/
theorem isMerged_merged : (v : Json) → v.merged.IsMerged
  | null | bool _ | int _ | float _ | str _ => rfl
  | arr items => by
    rw [merged_arr, isMerged_arr, List.forall_mem_map]
    exact isMerged_items items
  | obj es => by
    rw [merged_obj]
    refine isMerged_obj (Entries.nodup_keys_insertAll .nil) fun e he => ?_
    obtain ⟨u, hu, rfl⟩ := List.mem_map.1 ((Entries.mem_insertAll he).resolve_left nofun)
    exact isMerged_entries es u hu

/-- `isMerged_merged` on the items of an array. -/
theorem isMerged_items : (items : List Json) → ∀ v ∈ items, v.merged.IsMerged
  | [] => nofun
  | v :: vs => List.forall_mem_cons.2 ⟨isMerged_merged v, isMerged_items vs⟩

/-- `isMerged_merged` on the values of entries. -/
theorem isMerged_entries : (es : List (String × Json)) → ∀ e ∈ es, e.2.merged.IsMerged
  | [] => nofun
  | (_, v) :: es => List.forall_mem_cons.2 ⟨isMerged_merged v, isMerged_entries es⟩

end

/-- The keys of a merged object differ. -/
theorem nodup_of_isMerged (h : (obj es).IsMerged) : (Entries.keys es).Nodup := by
  rw [IsMerged, merged_obj, obj.injEq] at h
  rw [← h]
  exact Entries.nodup_keys_insertAll .nil

/-- The values of a merged object are merged. -/
theorem isMerged_of_mem (h : (obj es).IsMerged) {e : String × Json} (he : e ∈ es) :
    e.2.IsMerged := by
  rw [IsMerged, merged_obj, obj.injEq] at h
  rw [← h] at he
  obtain ⟨u, hu, rfl⟩ := List.mem_map.1 ((Entries.mem_insertAll he).resolve_left List.not_mem_nil)
  exact isMerged_entries es u hu

/-- What is found in a merged object is merged. -/
theorem isMerged_of_get? (h : (obj es).IsMerged) {key : String}
    (hw : Entries.get? key es = some v) : v.IsMerged := by
  rw [Entries.get?_eq_head?] at hw
  obtain ⟨e, he, rfl⟩ := Option.map_eq_some_iff.1 hw
  exact isMerged_of_mem h (List.mem_of_mem_filter (List.mem_of_head? he))

end Json

/-! ## Values of a file -/

namespace Datum

/-- The items of a list are taken over one by one. -/
theorem ofItems_eq_map (items : List Json) : ofItems items = items.map ofJson := by
  induction items with
  | nil => rfl
  | cons v vs ih => rw [ofItems, ih, List.map_cons]

/-- The entries of an object are taken over one by one. -/
theorem ofEntries_eq_map (es : List (String × Json)) :
    ofEntries es = es.map fun e => (.text e.1, ofJson e.2) := by
  induction es with
  | nil => rfl
  | cons e es ih => rw [ofEntries, ih, List.map_cons]

mutual

/-- **A JSON value is a plain value, merged.** -/
theorem toJson?_ofJson : (v : Json) → (ofJson v).toJson? = some v.merged
  | .null | .bool _ | .int _ | .float _ | .str _ => rfl
  | .arr items => by rw [ofJson, toJson?, toItems?_ofItems items]; rfl
  | .obj es => by rw [ofJson, toJson?, toEntries?_ofEntries es]; rfl

/-- `toJson?_ofJson` on the items of an array. -/
theorem toItems?_ofItems :
    (items : List Json) → toItems? (ofItems items) = some (Json.mergedItems items)
  | [] => rfl
  | v :: vs => by rw [ofItems, toItems?, toJson?_ofJson v, toItems?_ofItems vs]; rfl

/-- `toJson?_ofJson` on the values of entries. -/
theorem toEntries?_ofEntries :
    (es : List (String × Json)) → toEntries? (ofEntries es) = some (Json.mergedEntries es)
  | [] => rfl
  | (k, v) :: es => by rw [ofEntries, toEntries?, toJson?_ofJson v, toEntries?_ofEntries es]; rfl

end

end Datum
end AgentTool
