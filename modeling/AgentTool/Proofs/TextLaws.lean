import AgentTool.Text.Blank
import AgentTool.Text.Split
import Mathlib.Data.List.DropRight

/-!
# Cutting and trimming texts

What is in front of a separator, or of the text that is looked for, is passed on the way to it
(`fields_prepend`, `breakAt_prepend`, `breakOn?_prepend`), so that a text falls into its stretches
and back (`fields_append`, `flatMap_fields`).

Trimming takes a text apart into blanks, a text without blanks at its ends, and blanks again
(`exists_blanks_around`), and there is only one way to do so (`IsTrimmed.trim_surrounded`).
-/

namespace AgentTool
namespace Text

/-! ## Stretches between separators -/

/-- A text has at least one stretch. -/
theorem fields_ne_nil (sep : Char) (cs : List Char) : fields sep cs ≠ [] := by
  cases cs with
  | nil => simp [fields]
  | cons c cs =>
    unfold fields
    split
    · simp
    · split <;> simp

/-- A text without separators belongs to the first stretch of what follows it. -/
theorem fields_prepend {sep : Char} {cs : List Char} (h : sep ∉ cs) (ds : List Char) :
    fields sep (cs ++ ds) = (fields sep ds).modifyHead (cs ++ ·) := by
  obtain ⟨f, fs, hf⟩ := List.exists_cons_of_ne_nil (fields_ne_nil sep ds)
  rw [hf]
  induction cs with
  | nil => exact hf
  | cons c cs ih =>
    rw [List.mem_cons, not_or] at h
    rw [List.cons_append, fields, if_neg (Ne.symm h.1), ih h.2]
    rfl

/-- A text without separators is one stretch. -/
theorem fields_of_notMem {sep : Char} {cs : List Char} (h : sep ∉ cs) : fields sep cs = [cs] := by
  have hf := fields_prepend h []
  rwa [fields, List.append_nil, List.modifyHead_cons, List.append_nil] at hf

/-- A text is divided at a mark into what is before and what is after it. -/
theorem fields_append_sep (sep : Char) (cs ds : List Char) :
    fields sep (cs ++ sep :: ds) = fields sep cs ++ fields sep ds := by
  induction cs with
  | nil => simp [fields]
  | cons c cs ih =>
    obtain ⟨f, fs, hf⟩ := List.exists_cons_of_ne_nil (fields_ne_nil sep cs)
    rw [List.cons_append, fields, fields, ih, hf]
    split
    · rfl
    · rfl

/-- A text without separators in front of one is a stretch of its own. -/
theorem fields_append {sep : Char} {cs : List Char} (h : sep ∉ cs) (ds : List Char) :
    fields sep (cs ++ sep :: ds) = cs :: fields sep ds := by
  rw [fields_append_sep, fields_of_notMem h, List.singleton_append]

/-- The stretches of a text, each behind a separator, are the text behind a separator. -/
theorem flatMap_fields (sep : Char) (cs : List Char) :
    (fields sep cs).flatMap (sep :: ·) = sep :: cs := by
  induction cs with
  | nil => simp [fields]
  | cons c cs ih =>
    obtain ⟨f, fs, hf⟩ := List.exists_cons_of_ne_nil (fields_ne_nil sep cs)
    rw [hf, List.flatMap_cons] at ih
    have hcs : f ++ fs.flatMap (sep :: ·) = cs := (List.cons.inj ih).2
    rw [fields, hf]
    split
    · rename_i hc
      rw [List.flatMap_cons, List.flatMap_cons, ih, hc, List.singleton_append]
    · rw [List.flatMap_cons, List.cons_append, List.cons_append, hcs]

/-! ## Cuts -/

/-- What holds no mark is passed on the way to the mark. -/
theorem breakOn?_prepend {m : Char} {mark before : List Char} (h : m ∉ before) (cs : List Char) :
    breakOn? (m :: mark) (before ++ cs) =
      (breakOn? (m :: mark) cs).map fun cut => (before ++ cut.1, cut.2) := by
  induction before with
  | nil => simp
  | cons c before ih =>
    rw [List.mem_cons, not_or] at h
    rw [List.cons_append, breakOn?, dropLead?, if_neg h.1, ih h.2, Option.map_map]
    rfl

/-- What holds no separator is passed on the way to the separator. -/
theorem breakAt_prepend {sep : Char} {before : List Char} (h : sep ∉ before) (cs : List Char) :
    breakAt sep (before ++ cs) = (before ++ (breakAt sep cs).1, (breakAt sep cs).2) := by
  induction before with
  | nil => rfl
  | cons c before ih =>
    rw [List.mem_cons, not_or] at h
    rw [List.cons_append, breakAt, if_neg (Ne.symm h.1), ih h.2]
    rfl

/-- **A text is cut at its first separator.** -/
theorem breakAt_eq_some {sep : Char} {cs before after : List Char} :
    breakAt sep cs = (before, some after) ↔ cs = before ++ sep :: after ∧ sep ∉ before := by
  constructor
  · intro h
    induction cs generalizing before with
    | nil => cases h
    | cons c cs ih =>
      unfold breakAt at h
      split at h
      · rename_i hc
        obtain ⟨rfl, hs⟩ := Prod.mk.inj h
        rw [hc, Option.some.inj hs]
        exact ⟨rfl, List.not_mem_nil⟩
      · rename_i hc
        obtain ⟨rfl, hs⟩ := Prod.mk.inj h
        obtain ⟨hcs, hn⟩ := ih (Prod.ext rfl hs)
        refine ⟨congrArg (c :: ·) hcs, ?_⟩
        rw [List.mem_cons, not_or]
        exact ⟨Ne.symm hc, hn⟩
  · rintro ⟨rfl, hn⟩
    rw [breakAt_prepend hn, breakAt, if_pos rfl, List.append_nil]

/-! ## Texts within texts -/

/-- A lead is dropped from a text that opens with it. -/
theorem dropLead?_eq_some {lead cs rest : List Char} :
    dropLead? lead cs = some rest ↔ cs = lead ++ rest := by
  induction lead generalizing cs with
  | nil => simp [dropLead?, eq_comm]
  | cons l ls ih =>
    cases cs with
    | nil => simp [dropLead?]
    | cons c cs =>
      rw [dropLead?, List.cons_append, List.cons.injEq]
      split
      · rename_i hc
        simp [ih, hc]
      · rename_i hc
        simp [Ne.symm hc]

/-- A lead can be dropped exactly if the text opens with it. -/
theorem dropLead?_isSome {lead cs : List Char} :
    (dropLead? lead cs).isSome = true ↔ lead <+: cs := by
  rw [Option.isSome_iff_exists]
  exact exists_congr fun _ => dropLead?_eq_some.trans eq_comm

/-- **A text contains the texts that stand in it.** -/
theorem contains_iff {mark cs : List Char} : contains mark cs = true ↔ mark <:+: cs := by
  induction cs with
  | nil =>
    rw [List.infix_nil]
    cases mark <;> simp [contains, breakOn?]
  | cons c cs ih =>
    rw [List.infix_cons_iff, ← dropLead?_isSome, ← ih, contains, contains, breakOn?]
    cases dropLead? mark (c :: cs) with
    | some rest => simp
    | none => simp

/-- A text does not contain what is nowhere in it. -/
theorem contains_eq_false {mark cs : List Char} : contains mark cs = false ↔ ¬mark <:+: cs := by
  rw [← contains_iff, Bool.not_eq_true]

/-! ## Texts without blanks at their ends -/

/-- Neither the first nor the last character is blank. -/
structure IsTrimmed (cs : List Char) : Prop where
  first : ∀ c ∈ cs.head?, isBlank c = false
  last : ∀ c ∈ cs.getLast?, isBlank c = false

/-- Trimming at the right drops the blanks at the end. -/
theorem trimRight_eq (cs : List Char) : trimRight cs = cs.rdropWhile isBlank := rfl

/-- What trimming leaves has no blanks at its ends. -/
theorem isTrimmed_trim (cs : List Char) : IsTrimmed (trim cs) := by
  have hp : trim cs <+: trimLeft cs := List.rdropWhile_prefix _ _
  constructor
  · intro c hc
    have hf : (trimLeft cs).head? = some c := by
      obtain ⟨ds, hds⟩ := List.head?_eq_some_iff.1 hc
      obtain ⟨rest, hr⟩ := hp
      rw [← hr, hds, List.cons_append, List.head?_cons]
    have hn := List.head?_dropWhile_not isBlank cs
    rw [show cs.dropWhile isBlank = trimLeft cs from rfl, hf] at hn
    exact hn
  · intro c hc
    obtain ⟨hne, rfl⟩ := List.mem_getLast?_eq_getLast hc
    have hl : ¬isBlank ((trim cs).getLast hne) = true := List.rdropWhile_last_not _ _ hne
    rwa [Bool.not_eq_true] at hl

/-- Trimming leaves a text without blanks at its ends as it is. -/
theorem IsTrimmed.trim_eq {cs : List Char} (h : IsTrimmed cs) : trim cs = cs := by
  have hl : trimLeft cs = cs := by
    refine List.dropWhile_eq_self_iff.2 fun hpos => ?_
    rw [h.first _ (by rw [List.head?_eq_getElem?, List.getElem?_eq_getElem hpos, Option.mem_def])]
    exact Bool.false_ne_true
  rw [trim, hl, trimRight_eq]
  refine List.rdropWhile_eq_self_iff.2 fun hne => ?_
  rw [h.last _ (List.getLast_mem_getLast? hne)]
  exact Bool.false_ne_true

/-- A text without blanks has none at its ends. -/
theorem isTrimmed_of_forall {cs : List Char} (h : ∀ c ∈ cs, isBlank c = false) : IsTrimmed cs :=
  ⟨fun c hc => h c (List.mem_of_head? hc), fun c hc => h c (List.mem_of_getLast? hc)⟩

/-- **Trimming does not see blanks on either side.** -/
theorem trim_surrounded {before after : List Char} (hb : ∀ c ∈ before, isBlank c = true)
    (ha : ∀ c ∈ after, isBlank c = true) (cs : List Char) :
    trim (before ++ cs ++ after) = trim cs := by
  have hright : ∀ ds, trimRight (ds ++ after) = trimRight ds := fun ds => by
    rw [trimRight, List.reverse_append, List.dropWhile_append_of_pos (by simpa using ha)]
    rfl
  rw [trim, trimLeft, List.append_assoc, List.dropWhile_append_of_pos hb, List.dropWhile_append]
  split
  · rename_i he
    have hl : trimLeft cs = [] := List.isEmpty_iff.1 he
    rw [List.dropWhile_eq_nil_iff.2 ha, trim, hl]
  · exact hright (trimLeft cs)

/-- Trimming takes away blanks on either side of a text without blanks at its ends. -/
theorem IsTrimmed.trim_surrounded {cs : List Char} (h : IsTrimmed cs) {before after : List Char}
    (hb : ∀ c ∈ before, isBlank c = true) (ha : ∀ c ∈ after, isBlank c = true) :
    trim (before ++ cs ++ after) = cs :=
  (Text.trim_surrounded hb ha cs).trans h.trim_eq

/-- A text and the blanks that are trimmed off it. -/
theorem exists_blanks_around (cs : List Char) :
    ∃ before after, cs = before ++ trim cs ++ after ∧ (∀ c ∈ before, isBlank c = true) ∧
      (∀ c ∈ after, isBlank c = true) ∧ (before = [] ↔ trimLeft cs = cs) := by
  have hsplit : cs.takeWhile isBlank ++ trimLeft cs = cs := List.takeWhile_append_dropWhile
  refine ⟨cs.takeWhile isBlank, (trimLeft cs).rtakeWhile isBlank, ?_,
    fun c hc => List.mem_takeWhile_imp hc, fun c hc => List.mem_rtakeWhile_imp hc, ?_⟩
  · have htrim : trim cs ++ (trimLeft cs).rtakeWhile isBlank = trimLeft cs :=
      List.rdropWhile_append_rtakeWhile
    rw [List.append_assoc, htrim, hsplit]
  · constructor
    · intro h
      rwa [h, List.nil_append] at hsplit
    · intro h
      rw [h] at hsplit
      exact List.append_left_eq_self.1 hsplit

end Text
end AgentTool
