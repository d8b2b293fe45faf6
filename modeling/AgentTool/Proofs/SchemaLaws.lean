import AgentTool.Document.Schema
import AgentTool.Proofs.Acceptance

/-!
# What schemas admit

A schema admits a value exactly if it has no violation.  Each keyword says so in its
own way, and a conjunction admits what all its parts admit; no lemma below mentions
the list of violations, which serves only for the text of an error.
-/

namespace AgentTool
namespace Schema

variable {s : Schema} {ss : List Schema} {ps : List (String × Schema)} {v : Json} {vs : List Json}
  {es : List (String × Json)} {kinds : List Kind}

/-- A schema admits a value exactly if the value does not violate it. -/
theorem admits_iff : s.admits v = true ↔ s.violations v = [] := List.isEmpty_iff

/-- A value violates none of several schemas exactly if they all admit it. -/
theorem allViolations_eq_nil : allViolations ss v = [] ↔ ∀ s ∈ ss, s.admits v = true := by
  induction ss with
  | nil => exact iff_of_true rfl nofun
  | cons s ss ih =>
    rw [List.forall_mem_cons, ← ih, admits_iff]
    exact List.append_eq_nil_iff

/-- Some of several schemas admits a value exactly if there is one that does. -/
theorem someAdmits_iff : someAdmits ss v = true ↔ ∃ s ∈ ss, s.admits v = true := by
  induction ss with
  | nil => exact iff_of_false nofun (by simp)
  | cons s ss ih =>
    have hc : someAdmits (s :: ss) v = (s.admits v || someAdmits ss v) := rfl
    simp [hc, ih]

/-! ## Kinds -/

/-- A text is of the kind of strings. -/
@[simp] theorem Kind.admits_str {t : String} : string.admits (.str t) = true := rfl

/-- A flag is of the kind of booleans. -/
@[simp] theorem Kind.admits_bool {b : Bool} : boolean.admits (.bool b) = true := rfl

/-- A whole number is of the kind of integers. -/
@[simp] theorem Kind.admits_int {n : Int} : integer.admits (.int n) = true := rfl

/-- A list is of the kind of arrays. -/
@[simp] theorem Kind.admits_arr : array.admits (.arr vs) = true := rfl

/-- An object is of the kind of objects. -/
@[simp] theorem Kind.admits_obj : object.admits (.obj es) = true := rfl

/-! ## Keywords -/

/-- The schema without a keyword admits every value. -/
@[simp] theorem admits_anything : anything.admits v = true := rfl

/-- A schema with a name admits what it admits without it. -/
@[simp] theorem admits_named {name : String} : (named name s).admits v = s.admits v := rfl

/-- An annotation admits every value. -/
@[simp] theorem admits_note {key : String} {w : Json} : (note key w).admits v = true := rfl

/-- Several keywords admit what they all admit. -/
@[simp] theorem admits_node : (node ss).admits v = true ↔ ∀ s ∈ ss, s.admits v = true :=
  admits_iff.trans allViolations_eq_nil

/-- All of several schemas admit what they all admit. -/
@[simp] theorem admits_allOf : (allOf ss).admits v = true ↔ ∀ s ∈ ss, s.admits v = true :=
  admits_iff.trans allViolations_eq_nil

/-- A list of kinds admits the values of one of them. -/
@[simp] theorem admits_type : (type kinds).admits v = kinds.any (·.admits v) := by
  show (if kinds.any (·.admits v) then [] else _).isEmpty = _
  split <;> simp [*]

/-- A list of choices admits what is the same as one of them. -/
@[simp] theorem admits_choices : (choices vs).admits v = vs.any (·.same v) := by
  show (if vs.any (·.same v) then [] else _).isEmpty = _
  split <;> simp [*]

/-- The bound at zero admits what is not below it. -/
@[simp] theorem admits_nonnegative : nonnegative.admits v = !isBelowZero v := by
  show (if isBelowZero v then _ else []).isEmpty = _
  split <;> simp [*]

/-- Any of several schemas admits what one of them admits. -/
@[simp] theorem admits_anyOf : (anyOf ss).admits v = true ↔ ∃ s ∈ ss, s.admits v = true := by
  rw [← someAdmits_iff]
  show (if someAdmits ss v then [] else _).isEmpty = true ↔ _
  split <;> simp [*]

/-- A schema for items admits a list exactly if it admits every item. -/
@[simp] theorem admits_items : (items s).admits (.arr vs) = true ↔ ∀ v ∈ vs, s.admits v = true := by
  have hm := List.forall_mem_map (l := vs.zipIdx) (f := Prod.fst) (P := fun v => s.admits v = true)
  rw [List.zipIdx_map_fst] at hm
  rw [hm, admits_iff]
  refine List.flatten_eq_nil_iff.trans ?_
  simp only [List.forall_mem_map, List.map_eq_nil_iff, ← admits_iff]

/-- Required keys admit an object that has them all. -/
@[simp] theorem admits_required {keys : List String} :
    (required keys).admits (.obj es) = true ↔ ∀ k ∈ keys, k ∈ Entries.keys es := by
  rw [admits_iff]
  refine List.map_eq_nil_iff.trans ?_
  simp [← Check.get?_isSome, Option.isSome_iff_ne_none]

/-- Schemas for properties admit an object exactly if each admits what the object has at its key. -/
@[simp] theorem admits_properties :
    (properties ps).admits (.obj es) = true ↔
      ∀ p ∈ ps, ∀ v, Entries.get? p.1 es = some v → p.2.admits v = true := by
  rw [admits_iff]
  change propertyViolations ps es = [] ↔ _
  induction ps with
  | nil => exact iff_of_true rfl nofun
  | cons p ps ih =>
    rw [List.forall_mem_cons, ← ih]
    refine List.append_eq_nil_iff.trans (and_congr ?_ Iff.rfl)
    cases Entries.get? p.1 es <;> simp [admits_iff]

/-- A schema for entries admits an object exactly if it admits the value of every entry. -/
@[simp] theorem admits_additional :
    (additional s).admits (.obj es) = true ↔ ∀ v ∈ es.map (·.2), s.admits v = true := by
  rw [admits_iff]
  refine List.flatten_eq_nil_iff.trans ?_
  simp only [List.forall_mem_map, List.map_eq_nil_iff, ← admits_iff]

end Schema

namespace Document

open Schema

variable {v : Json} {s : Schema} {note : String} {es : List (String × Json)}

/-! ## Shapes of the schema of documents -/

/-- A remark admits every value. -/
@[simp] theorem admits_remark : (remark note).admits v = true := admits_note

/-- A default admits every value. -/
@[simp] theorem admits_standing {w : Json} : (standing w).admits v = true := admits_note

/-- The schema of a text admits the texts. -/
@[simp] theorem admits_text {t : String} : text.admits (.str t) = true := by
  simp [text]

/-- The schema of a flag admits the flags. -/
@[simp] theorem admits_flag {b : Bool} : flag.admits (.bool b) = true := by
  simp [flag]

/-- A schema with a remark admits what it admits without it. -/
@[simp] theorem admits_remarked : (remarked note s).admits v = s.admits v := by
  rw [Bool.eq_iff_iff]
  simp [remarked]

/-- A schema with null admits what it admits without it, and null. -/
@[simp] theorem admits_nullable :
    (nullable s).admits v = true ↔ s.admits v = true ∨ v = .null := by
  have hn : Kind.null.admits v = true ↔ v = .null := by cases v <;> simp [Kind.admits]
  simp [nullable, hn]

/-- An object has the keys that it needs, and its properties are admitted. -/
@[simp] theorem admits_object {keys : List String} {properties : List (String × Schema)} :
    (object note keys properties).admits (.obj es) = true ↔
      (∀ k ∈ keys, k ∈ Entries.keys es) ∧
        ∀ p ∈ properties, ∀ v, Entries.get? p.1 es = some v → p.2.admits v = true := by
  cases keys <;> simp [object]

/-! ## Validation -/

/-- A value passes validation exactly if the schema of documents admits it. -/
theorem validate_eq_ok : validate v = .ok () ↔ schema.admits v = true := by
  rw [admits_iff, validate]
  cases schema.violations v with
  | nil => exact iff_of_true rfl rfl
  | cons x xs => exact iff_of_false nofun nofun

/-- Only an object passes validation. -/
theorem eq_obj_of_validate (h : validate v = .ok ()) : ∃ es, v = .obj es := by
  rw [validate_eq_ok, schema, admits_node] at h
  have hk := h (.type [.object]) (by simp)
  rw [admits_type] at hk
  cases v with
  | obj es => exact ⟨es, rfl⟩
  | _ => cases hk

end Document
end AgentTool
