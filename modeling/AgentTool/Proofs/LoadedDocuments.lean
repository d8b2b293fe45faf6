import AgentTool.Document.Source
import AgentTool.Proofs.RecordLaws
import AgentTool.Proofs.SchemaLaws

/-!
# The documents of a text are the values that were checked

A text is read twice, and each time the documents are picked out by another test:
`Source.parts` picks the values that are checked, with repeated keys merged, and
`Source.set?` picks those that are returned, as they are written.

| shape of the text | checked | returned |
| --- | --- | --- |
| a list | its items | its items |
| an object with documents under `functions`, without `function` | those | those |
| an object with `function`, without documents under `functions` | the object | the object |
| an object with `function` and documents under `functions` | the object | those |

In the last shape, and in no other, documents come back that nothing has checked
(`documents_checked`).
-/

namespace AgentTool
namespace Source

open Decode

variable {v : Json} {es : List (String × Json)} {items : List Json} {ds : List Document}
  {d : Document}

/-- The documents are what the values say, one by one. -/
def Says (values : List Json) (ds : List Document) : Prop :=
  List.Forall₂ (fun v d => Document.ofJson? v = some d) values ds

/-! ## What is returned -/

/-- Documents come from under `functions` if it is given once and lists them. -/
theorem wrapped?_eq_some (h : wrapped? (.ofJson v) = some ds) :
    ∃ es items, v = .obj es ∧ Entries.get? "functions" es = some (.arr items) ∧
      Entries.get? "functions" (Json.mergeKeys es) = some (.arr (items.map Json.merged)) ∧
      Says items ds := by
  cases v with
  | obj es =>
    obtain ⟨r, hr, h⟩ := Option.bind_eq_some_iff.1 (show Option.bind _ _ = _ from h)
    obtain ⟨x, hx, hl⟩ := Option.bind_eq_some_iff.1 (show Option.bind _ _ = _ from h)
    replace hr : record? [["functions"]] (.ofJson (.obj es)) = some r := hr
    rw [(record?_obj.1 hr).1, get?_givenBy (by decide)] at hx
    obtain ⟨w, hw, rfl⟩ := Option.map_eq_some_iff.1 hx
    obtain ⟨items, rfl⟩ := eq_arr_of_list hl
    refine ⟨es, items, rfl, hw, ?_, list_arr.1 hl⟩
    rw [get?_mergeKeys_of_record hr (by decide), hw, Option.map_some, Json.merged_arr]
  | _ => cases h

/-- A document that is an object has its name under `function`. -/
theorem function_of_object (h : Document.ofJson? (.obj es) = some d) :
    ∃ name, Entries.get? "function" es = some name := by
  obtain ⟨r, hr, hn, -⟩ := Document.exists_record h
  obtain ⟨x, hx, -⟩ := Option.bind_eq_some_iff.1 (show Option.bind _ _ = _ from hn)
  rw [(record?_obj.1 hr).1, get?_givenBy (by decide)] at hx
  obtain ⟨v, hv, -⟩ := Option.map_eq_some_iff.1 hx
  exact ⟨v, hv⟩

/-- A document that is an array has its name in front. -/
theorem name_of_array (h : Document.ofJson? (.arr items) = some d) :
    ∃ name rest, items = .str name :: rest := by
  obtain ⟨r, hr, hn, -⟩ := Document.exists_record h
  obtain ⟨x, hx, hx'⟩ := Option.bind_eq_some_iff.1 (show Option.bind _ _ = _ from hn)
  rw [(record?_arr.1 hr).2] at hx
  cases items with
  | nil => cases hx
  | cons v vs =>
    obtain rfl : Datum.ofJson v = x := Option.some.inj hx
    cases v with
    | str s => exact ⟨s, vs, rfl⟩
    | _ => cases hx'

/-- The three ways in which a value holds documents. -/
theorem set?_cases (h : set? (.ofJson v) = some ds) :
    wrapped? (.ofJson v) = some ds ∨ (∃ items, v = .arr items ∧ Says items ds) ∨
      ∃ d, Document.ofJson? v = some d ∧ ds = [d] := by
  unfold set? at h
  cases hw : wrapped? (.ofJson v) with
  | some ds' => rw [hw] at h; exact .inl h
  | none =>
    rw [hw] at h
    cases hl : list Document.ofDatum? (.ofJson v) with
    | some ds' =>
      rw [hl] at h
      obtain rfl := Option.some.inj h
      obtain ⟨items, rfl⟩ := eq_arr_of_list hl
      exact .inr (.inl ⟨items, rfl, list_arr.1 hl⟩)
    | none =>
      rw [hl] at h
      obtain ⟨d, hd, rfl⟩ := Option.map_eq_some_iff.1 h
      exact .inr (.inr ⟨d, hd, rfl⟩)

/-! ## What is checked -/

/-- The two ways in which an object holds documents, for the check. -/
theorem parts_obj (es : List (String × Json)) :
    (∃ items, Entries.get? "functions" es = some (.arr items) ∧
        Entries.get? "function" es = none ∧ parts (.obj es) = .ok items) ∨
      (∀ items, Entries.get? "functions" es = some (.arr items) →
        Entries.get? "function" es ≠ none) ∧ parts (.obj es) = .ok [.obj es] := by
  simp only [parts]
  split
  · rename_i items hs hf
    exact .inl ⟨items, hs, hf, rfl⟩
  · rename_i hn
    exact .inr ⟨fun items hs hf => hn items hs hf, rfl⟩

/-- A loop of checks passes exactly if each check does. -/
theorem forIn_eq_ok {α ε : Type} {check : α → Except ε Unit} {as : List α} {u : PUnit} :
    (forIn as PUnit.unit fun a _ => do check a; return ForInStep.yield PUnit.unit) =
      Except.ok u ↔ ∀ a ∈ as, check a = .ok () := by
  induction as with
  | nil => exact iff_of_true rfl (by simp)
  | cons a as ih =>
    rw [List.forIn_cons, List.forall_mem_cons, ← ih]
    cases check a with
    | ok _ => exact (and_iff_right rfl).symm
    | error e => exact iff_of_false nofun fun h => nomatch h.1

/-- A text has documents if its values pass, and it can be read as documents. -/
theorem documents_eq_ok {format : Format} {text : String} :
    documents format text = .ok ds ↔ ∃ v ps, value format text = .ok v ∧ parts v = .ok ps ∧
      (∀ p ∈ ps, Document.validate p = .ok ()) ∧ decoded format text = .ok ds := by
  simp only [documents, Except.bind_eq_ok, forIn_eq_ok]
  constructor
  · rintro ⟨v, hv, ps, hp, -, hc, hd⟩
    exact ⟨v, ps, hv, hp, hc, hd⟩
  · rintro ⟨v, ps, hv, hp, hc, hd⟩
    exact ⟨v, hv, ps, hp, ⟨⟩, hc, hd⟩

/-! ## What was checked is what is returned -/

/-- One document, with a list of documents under `functions`. -/
def HoldsBoth (v : Json) (items : List Json) : Prop :=
  ∃ es name, v = .obj es ∧ Entries.get? "function" es = some name ∧
    Entries.get? "functions" es = some (.arr items)

/-- The items of a list are checked, and returned. -/
theorem set?_arr (hc : ∀ w ∈ items, Document.validate w.merged = .ok ())
    (hs : set? (.ofJson (.arr items)) = some ds) : Says items ds := by
  rcases set?_cases hs with hw | ⟨items', he, hl⟩ | ⟨d, hd, -⟩
  · obtain ⟨_, _, he, -⟩ := wrapped?_eq_some hw
    cases he
  · obtain rfl := Json.arr.inj he
    exact hl
  · -- an array that is one document starts with a text, and no text passes the check
    obtain ⟨name, rest, rfl⟩ := name_of_array hd
    obtain ⟨_, he⟩ := Document.eq_obj_of_validate (hc (.str name) (by simp))
    cases he

/-- The items that an object lists, or the object, are checked; what is returned is the same,
unless the object is checked and has a list. -/
theorem set?_obj {ps : List Json} (hp : parts (.obj (Json.mergeKeys es)) = .ok ps)
    (hs : set? (.ofJson (.obj es)) = some ds) :
    ∃ values, ps = values.map Json.merged ∧
      (Says values ds ∨
        values = [.obj es] ∧ ∃ items, HoldsBoth (.obj es) items ∧ Says items ds) := by
  rcases parts_obj (Json.mergeKeys es) with ⟨its, hf, hn, hits⟩ | ⟨hn, hone⟩
  · -- the items are checked; without `function` the object is not read as one document
    obtain rfl := Except.ok.inj (hits.symm.trans hp)
    rw [Json.get?_mergeKeys_eq_none] at hn
    rcases set?_cases hs with hw | ⟨items, he, -⟩ | ⟨d, hd, -⟩
    · obtain ⟨_, items, he, -, hm, hl⟩ := wrapped?_eq_some hw
      obtain rfl := Json.obj.inj he
      obtain rfl := Json.arr.inj (Option.some.inj (hf.symm.trans hm))
      exact ⟨items, rfl, .inl hl⟩
    · cases he
    · obtain ⟨name, hname⟩ := function_of_object hd
      cases hn.symm.trans hname
  · -- the object is checked; a list under `functions` is still read first
    obtain rfl := Except.ok.inj (hone.symm.trans hp)
    refine ⟨[.obj es], by rw [List.map_singleton, Json.merged_obj], ?_⟩
    rcases set?_cases hs with hw | ⟨items, he, -⟩ | ⟨d, hd, rfl⟩
    · obtain ⟨_, items, he, hg, hm, hl⟩ := wrapped?_eq_some hw
      obtain rfl := Json.obj.inj he
      have hname := hn _ hm
      rw [Ne, Json.get?_mergeKeys_eq_none] at hname
      obtain ⟨name, hname⟩ := Option.ne_none_iff_exists'.1 hname
      exact .inr ⟨rfl, items, ⟨es, name, rfl, hname, hg⟩, hl⟩
    · cases he
    · exact .inl (.cons hd .nil)

/-- The documents of a value say what the values say that were checked, or what is listed in the
one value that was checked. -/
theorem set?_checked {ps : List Json} (hp : parts v.merged = .ok ps)
    (hc : ∀ p ∈ ps, Document.validate p = .ok ()) (hs : set? (.ofJson v) = some ds) :
    ∃ values, ps = values.map Json.merged ∧
      (Says values ds ∨ values = [v] ∧ ∃ items, HoldsBoth v items ∧ Says items ds) := by
  cases v with
  | arr items =>
    rw [Json.merged_arr] at hp
    obtain rfl := Except.ok.inj hp
    exact ⟨items, rfl, .inl (set?_arr (List.forall_mem_map.1 hc) hs)⟩
  | obj es => exact set?_obj (Json.merged_obj es ▸ hp) hs
  | _ => cases hp

/-- **What comes back has been checked.**  The documents of a text say, in number and order, what
the values say that were checked, each value read as it is written and checked as it is
when repeated keys are merged.  There is one exception: of an object with `function` and
documents under `functions` the object is checked, and those documents come back. -/
theorem documents_checked {text : String} (h : documents .json text = .ok ds) :
    ∃ v values, Json.readEntries? text = some v ∧
      parts v.merged = .ok (values.map Json.merged) ∧
      (∀ w ∈ values, Document.validate w.merged = .ok ()) ∧
      (Says values ds ∨ values = [v] ∧ ∃ items, HoldsBoth v items ∧ Says items ds) := by
  obtain ⟨m, ps, hv, hp, hc, hd⟩ := documents_eq_ok.1 h
  simp only [value, Json.read?, decoded] at hv hd
  cases hr : Json.readEntries? text with
  | none => simp [hr] at hv
  | some v =>
    simp only [hr, Option.map_some, Option.bind_some] at hv hd
    obtain rfl := Except.ok.inj hv
    cases hs : set? (.ofJson v) with
    | none => simp [hs] at hd
    | some ds' =>
      obtain rfl : ds' = ds := by simpa [hs] using hd
      obtain ⟨values, rfl, hsays⟩ := set?_checked hp hc hs
      exact ⟨v, values, rfl, hp, List.forall_mem_map.1 hc, hsays⟩

/-- What a function makes of a result comes from a result. -/
theorem exists_of_map_eq_ok {α β ε : Type} {x : Except ε α} {f : α → β} {b : β}
    (h : x.map f = .ok b) : ∃ a, x = .ok a ∧ f a = b := by
  cases x with
  | ok a => exact ⟨a, rfl, Except.ok.inj h⟩
  | error e => cases h

/-- Two documents listed under `functions`. -/
def listed : String :=
  "\x7b\"functions\": [\x7b\"function\": \"a\"\x7d, \x7b\"function\": \"b\"\x7d]\x7d"

/-- Both documents are checked, and both come back. -/
theorem documents_of_listed :
    ∃ ds, documents .json listed = .ok ds ∧ ds.map Document.name = ["a", "b"] ∧
      ∃ v values, Json.readEntries? listed = some v ∧
        parts v.merged = .ok (values.map Json.merged) ∧
        (∀ w ∈ values, Document.validate w.merged = .ok ()) ∧
        (Says values ds ∨ values = [v] ∧ ∃ items, HoldsBoth v items ∧ Says items ds) := by
  have h : (documents .json listed).map (·.map Document.name) = .ok ["a", "b"] := by
    decide +kernel
  obtain ⟨ds, hd, hn⟩ := exists_of_map_eq_ok h
  exact ⟨ds, hd, hn, documents_checked hd⟩

/-- One document, with another under `functions`. -/
def both : String :=
  "\x7b\"function\": \"a\", \"functions\": [\x7b\"function\": \"b\"\x7d]\x7d"

/-- **An object may hide a list.**  The document `a` is checked, and the document `b` comes back. -/
theorem documents_of_both :
    ∃ ds checked, documents .json both = .ok ds ∧ value .json both >>= parts = .ok checked ∧
      ds.map Document.name = ["b"] ∧ ¬Says checked ds := by
  have hd : (documents .json both).map (·.map Document.name) = .ok ["b"] := by decide +kernel
  have hp : (value .json both >>= parts).map
      (·.map fun w => (Document.ofJson? w).map Document.name) = .ok [some "a"] := by decide +kernel
  obtain ⟨ds, hd, hn⟩ := exists_of_map_eq_ok hd
  obtain ⟨checked, hp, hc⟩ := exists_of_map_eq_ok hp
  refine ⟨ds, checked, hd, hp, hn, fun hs => ?_⟩
  cases hs with
  | nil => cases hn
  | @cons w d _ _ h _ =>
    have ha : (Document.ofJson? w).map Document.name = some "a" := (List.cons.inj hc).1
    have hb : d.name = "b" := (List.cons.inj hn).1
    rw [h, Option.map_some, hb] at ha
    exact absurd (Option.some.inj ha) (by decide)

end Source
end AgentTool
