import AgentTool.Proofs.RecordLaws
import Mathlib.Data.List.Nodup
import Mathlib.Data.List.Pairwise

/-!
# Which values a reader takes

A reader takes some JSON values and refuses the others, and what it takes is told by the readers it
is made of.  A record of an object whose keys are distinct is taken if no field is given under two
of its names, if the fields that it needs are there, and if each field that is given is taken
(`Decode.isSome_record`, `Decode.isSome_required`, `Decode.isSome_withDefault`).
-/

namespace AgentTool
namespace Decode

variable {α β : Type} {read : Reader α} {v : Json} {es : List (String × Json)}

/-- A reader makes something of a value. -/
def Takes (read : Reader α) (v : Json) : Prop := (read (.ofJson v)).isSome = true

/-! ## Readers -/

/-- A reader of texts takes the texts. -/
theorem takes_text : Takes text v ↔ ∃ s, v = .str s := by
  cases v with
  | str s => exact iff_of_true rfl ⟨s, rfl⟩
  | _ => exact iff_of_false Bool.false_ne_true (by rintro ⟨_, h⟩; cases h)

/-- A reader of flags takes the flags. -/
theorem takes_flag : Takes flag v ↔ ∃ b, v = .bool b := by
  cases v with
  | bool b => exact iff_of_true rfl ⟨b, rfl⟩
  | _ => exact iff_of_false Bool.false_ne_true (by rintro ⟨_, h⟩; cases h)

/-- A reader of natural numbers takes those of 64 bits. -/
theorem takes_natural : Takes natural v ↔ ∃ n : Nat, n < UInt64.size ∧ v = .int n := by
  cases v with
  | int i =>
    unfold Takes
    rw [Datum.ofJson, natural]
    split
    · rename_i h
      exact iff_of_true rfl ⟨i.toNat, by omega, by rw [Int.toNat_of_nonneg h.1]⟩
    · rename_i h
      refine iff_of_false Bool.false_ne_true ?_
      rintro ⟨n, hn, hi⟩
      refine h ?_
      obtain rfl := Json.int.inj hi
      exact ⟨by omega, by omega⟩
  | _ => exact iff_of_false Bool.false_ne_true (by rintro ⟨_, -, h⟩; cases h)

/-- Every value is a plain value once it is merged. -/
theorem takes_value : Takes value v := by
  rw [Takes, value, Datum.toJson?_ofJson]
  rfl

/-- A reader of optional values takes null and what the reader of the values takes. -/
theorem takes_nullable : Takes (nullable read) v ↔ v = .null ∨ Takes read v := by
  by_cases hv : v = .null
  · subst hv
    exact iff_of_true rfl (.inl rfl)
  · rw [Takes, nullable_ofJson hv, Option.isSome_map]
    exact (or_iff_right hv).symm

/-- A list is read exactly if each of its items is. -/
theorem isSome_mapM {f : α → Option β} {as : List α} :
    (as.mapM f).isSome = true ↔ ∀ a ∈ as, (f a).isSome = true := by
  induction as with
  | nil => exact iff_of_true rfl nofun
  | cons a as ih =>
    rw [List.mapM_cons, List.forall_mem_cons, ← ih]
    cases f a <;> cases as.mapM f <;> simp

/-- A reader of lists takes the lists whose items are taken. -/
theorem takes_list : Takes (list read) v ↔ ∃ items, v = .arr items ∧ ∀ w ∈ items, Takes read w := by
  cases v with
  | arr items =>
    have hi : Takes (list read) (.arr items) ↔ ∀ w ∈ items, Takes read w := by
      rw [Takes, Datum.ofJson, list, Datum.ofItems_eq_map, isSome_mapM, List.forall_mem_map]
      rfl
    rw [hi]
    constructor
    · exact fun h => ⟨items, rfl, h⟩
    · rintro ⟨_, hv, h⟩
      exact Json.arr.inj hv ▸ h
  | _ => exact iff_of_false Bool.false_ne_true (by rintro ⟨_, h, -⟩; cases h)

/-- A reader of tables takes the objects whose values are taken. -/
theorem takes_entries :
    Takes (entries read) v ↔ ∃ es, v = .obj es ∧ ∀ e ∈ es, Takes read e.2 := by
  cases v with
  | obj es =>
    have hi : Takes (entries read) (.obj es) ↔ ∀ e ∈ es, Takes read e.2 := by
      rw [Takes, Datum.ofJson, entries, Datum.ofEntries_eq_map, isSome_mapM, List.forall_mem_map]
      simp only [Option.isSome_map, Takes]
    rw [hi]
    constructor
    · exact fun h => ⟨es, rfl, h⟩
    · rintro ⟨_, hv, h⟩
      exact Json.obj.inj hv ▸ h
  | _ => exact iff_of_false Bool.false_ne_true (by rintro ⟨_, h, -⟩; cases h)

/-- What comes after a part is read has a result of its own. -/
theorem isSome_bind {x : Option α} {f : α → Option β} {P : Prop}
    (h : ∀ a, (f a).isSome = true ↔ P) :
    (x >>= f).isSome = true ↔ x.isSome = true ∧ P := by
  cases x with
  | none => exact iff_of_false Bool.false_ne_true fun h => Bool.false_ne_true h.1
  | some a => exact (h a).trans (and_iff_right rfl).symm

/-! ## Records -/

variable {fields : List (List String)} {a b key : String} {next : Record → Option β}

/-- The fields that an object gives are the names of its keys. -/
theorem keys_givenBy :
    Entries.keys (givenBy fields es) = (Entries.keys es).filterMap (fieldName? fields) := by
  rw [Entries.keys, givenBy, List.map_filterMap, Entries.keys, List.filterMap_map]
  refine List.filterMap_congr fun e _ => ?_
  cases h : fieldName? fields e.1 <;> simp [h]

/-- A record is read exactly if no field is given twice and what follows is read. -/
theorem isSome_record :
    (record? fields (.ofJson (.obj es)) >>= next).isSome = true ↔
      (Entries.keys (givenBy fields es)).Nodup ∧ (next (givenBy fields es)).isSome = true := by
  constructor
  · intro h
    obtain ⟨c, hc⟩ := Option.isSome_iff_exists.1 h
    obtain ⟨r, hr, hn⟩ := Option.bind_eq_some_iff.1 hc
    obtain ⟨rfl, hd⟩ := record?_obj.1 hr
    exact ⟨hd, by rw [hn]; rfl⟩
  · rintro ⟨hd, hn⟩
    rw [record?_obj.2 ⟨rfl, hd⟩]
    exact hn

/-- The name of a field is one of its names, the first one. -/
theorem mem_of_fieldName? (h : fieldName? fields key = some a) :
    ∃ names ∈ fields, key ∈ names ∧ names.head? = some a := by
  obtain ⟨names, hf, hh⟩ := Option.bind_eq_some_iff.1 h
  exact ⟨names, List.mem_of_find?_eq_some hf, by simpa using List.find?_some hf, hh⟩

/-- Distinct keys give distinct fields unless two of them name one field. -/
theorem nodup_givenBy (hk : (Entries.keys es).Nodup) :
    (Entries.keys (givenBy fields es)).Nodup ↔
      ∀ k ∈ Entries.keys es, ∀ l ∈ Entries.keys es, ∀ name, fieldName? fields k = some name →
        fieldName? fields l = some name → k = l := by
  rw [keys_givenBy, List.Nodup, List.pairwise_filterMap]
  constructor
  · intro hp k hkm l hlm name hkn hln
    by_contra hne
    have hs : Std.Symm fun x y => ∀ m, fieldName? fields x = some m →
        ∀ n, fieldName? fields y = some n → m ≠ n := ⟨fun x y h m hm n hn => (h n hn m hm).symm⟩
    exact hp.forall hkm hlm hne name hkn name hln rfl
  · intro h
    refine hk.pairwise_of_forall_ne fun k hkm l hlm hne m hm n hn => ?_
    rintro rfl
    exact hne (h k hkm l hlm m hm hn)

/-- A field that goes by one name is given under that name. -/
theorem eq_of_fieldName? {names : List String} (hm : key ∈ names) (hh : names.head? = some a)
    (ht : names.tail = []) : key = a := by
  obtain ⟨rest, rfl⟩ := List.head?_eq_some_iff.1 hh
  obtain rfl : rest = [] := ht
  exact List.mem_singleton.1 hm

/-- Every field goes by one name. -/
def SingleNames (fields : List (List String)) : Prop := ∀ names ∈ fields, names.tail = []

instance : Decidable (SingleNames fields) := List.decidableBAll _ _

/-- An object whose keys differ gives no field twice, if each field has one name. -/
theorem SingleNames.nodup (hf : SingleNames fields) (hk : (Entries.keys es).Nodup) :
    (Entries.keys (givenBy fields es)).Nodup := by
  refine (nodup_givenBy hk).2 fun k _ l _ name hkn hln => ?_
  obtain ⟨_, hn, hm, hh⟩ := mem_of_fieldName? hkn
  obtain ⟨_, hn', hm', hh'⟩ := mem_of_fieldName? hln
  exact (eq_of_fieldName? hm hh (hf _ hn)).trans (eq_of_fieldName? hm' hh' (hf _ hn')).symm

/-- One field goes by two names, the others by one name each. -/
structure HasAlias (fields : List (List String)) (a b : String) : Prop where
  ne : a ≠ b
  first : fieldName? fields a = some a
  second : fieldName? fields b = some a
  only : ∀ names ∈ fields, names = [a, b] ∨ names.tail = [] ∧ a ∉ names

instance : Decidable (HasAlias fields a b) :=
  decidable_of_iff
    (a ≠ b ∧ fieldName? fields a = some a ∧ fieldName? fields b = some a ∧
      ∀ names ∈ fields, names = [a, b] ∨ names.tail = [] ∧ a ∉ names)
    ⟨fun ⟨h₁, h₂, h₃, h₄⟩ => ⟨h₁, h₂, h₃, h₄⟩, fun ⟨h₁, h₂, h₃, h₄⟩ => ⟨h₁, h₂, h₃, h₄⟩⟩

/-- A field with two names is given at these two alone. -/
theorem HasAlias.fieldName?_eq (h : HasAlias fields a b) (k : String) :
    fieldName? fields k = some a ↔ k = a ∨ k = b := by
  constructor
  · intro hk
    obtain ⟨names, hn, hm, hh⟩ := mem_of_fieldName? hk
    rcases h.only names hn with rfl | ⟨-, ha⟩
    · simpa using hm
    · exact absurd (List.mem_of_head? hh) ha
  · rintro (rfl | rfl)
    · exact h.first
    · exact h.second

/-- Nothing is found at a key that is not there. -/
theorem get?_eq_none_iff : Entries.get? key es = none ↔ key ∉ Entries.keys es := by
  rw [← Check.get?_isSome, Option.not_isSome_iff_eq_none]

/-- A record with an alias gives no field twice if not both names are used. -/
theorem HasAlias.nodup_iff (h : HasAlias fields a b) (hk : (Entries.keys es).Nodup) :
    (Entries.keys (givenBy fields es)).Nodup ↔
      Entries.get? a es = none ∨ Entries.get? b es = none := by
  rw [nodup_givenBy hk, get?_eq_none_iff, get?_eq_none_iff]
  constructor
  · intro hd
    by_contra! hab
    exact h.ne (hd a hab.1 b hab.2 a h.first h.second)
  · intro hab k hkm l hlm name hkn hln
    by_cases hname : name = a
    · subst hname
      rcases (h.fieldName?_eq k).1 hkn with rfl | rfl <;>
        rcases (h.fieldName?_eq l).1 hln with rfl | rfl <;> grind
    · -- every other field goes by one name
      have hone {x : String} (hx : fieldName? fields x = some name) : x = name := by
        obtain ⟨names, hn, hm, hh⟩ := mem_of_fieldName? hx
        rcases h.only names hn with rfl | ⟨ht, -⟩
        · exact absurd (Option.some.inj hh).symm hname
        · exact eq_of_fieldName? hm hh ht
      exact (hone hkn).trans (hone hln).symm

/-- The value that is given under either of two names. -/
theorem HasAlias.get?_givenBy (h : HasAlias fields a b)
    (hd : Entries.get? a es = none ∨ Entries.get? b es = none) :
    Entries.get? a (givenBy fields es) =
      ((Entries.get? a es).or (Entries.get? b es)).map .ofJson := by
  induction es with
  | nil => rfl
  | cons e es ih =>
    rw [givenBy, List.filterMap_cons, ← givenBy]
    by_cases ha : e.1 = a
    · simp [Entries.get?, ha, h.first]
    · by_cases hb : e.1 = b
      · have hn : Entries.get? a (e :: es) = none := hd.resolve_right (by simp [Entries.get?, hb])
        rw [hn, Option.none_or]
        simp [Entries.get?, hb, h.second]
      · simp only [Entries.get?, ha, hb, if_false] at hd ⊢
        rw [← ih hd]
        cases hf : fieldName? fields e.1 with
        | none => rfl
        | some n =>
          have hn : n ≠ a := fun hn => ((h.fieldName?_eq e.1).1 (hn ▸ hf)).elim ha hb
          simp [Entries.get?, hn]

/-! ## Fields -/

section Fields

variable {r : Record} {x : Option Json}

/-- A required field is read exactly if it is there and taken. -/
theorem isSome_required (hx : Entries.get? key r = x.map .ofJson) :
    (r.required key read).isSome = true ↔ ∃ v, x = some v ∧ Takes read v := by
  rw [Record.required, hx]
  cases x with
  | none => exact iff_of_false Bool.false_ne_true (by rintro ⟨_, h, -⟩; cases h)
  | some v => exact ⟨fun h => ⟨v, rfl, h⟩, fun ⟨_, hv, h⟩ => Option.some.inj hv ▸ h⟩

/-- A field with a default is read exactly if what it is given is taken. -/
theorem isSome_withDefault {d : α} (hx : Entries.get? key r = x.map .ofJson) :
    (r.withDefault key read d).isSome = true ↔ ∀ v, x = some v → Takes read v := by
  rw [Record.withDefault, hx]
  cases x with
  | none => exact iff_of_true rfl nofun
  | some v => exact ⟨fun h _ hv => Option.some.inj hv ▸ h, fun h => h v rfl⟩

/-- An optional field is read exactly if what it is given is null or taken. -/
theorem isSome_optional (hx : Entries.get? key r = x.map .ofJson) :
    (r.optional key read).isSome = true ↔ ∀ v, x = some v → v = .null ∨ Takes read v := by
  rw [Record.optional, isSome_withDefault hx]
  simp only [takes_nullable]

end Fields

end Decode
end AgentTool
