import AgentTool.Proofs.MarkerReadings

/-!
# Quoted sections

A text falls into plain characters and quoted sections, each between two quotes of one kind
(`Sections`).  There are two readings of what stands between them:

| reading | between two quotes |
| --- | --- |
| `WithEscapes` | a backslash takes the next character with it, a quote too |
| `WithoutEscapes` | any character but the quote |

A mark stands outside quoted sections if the text before it falls into sections, and `IsCut` cuts a
text at the first mark that does.  Both cuts of a marker are of this kind, but they do not read
alike: the brace that closes it is the first one outside sections with escapes (`closeFrom_isCut`),
the bars before its default are the first ones outside sections without (`splitDefault_isCut`).

The readings differ only where a section holds its own quote behind a backslash.  If no section
before the bars does, the bars are found where the scan for the brace would find them
(`splitDefault_among_sections`); otherwise they may be missed (`splitDefault_misses_bars`).
-/

namespace AgentTool
namespace Template

/-! ## Cuts -/

/-- `left` and `right` stand before and after a mark in `cs`, the first one with a text before it as
`Outside` says. -/
structure IsCut (Outside : List Char → Prop) (mark cs left right : List Char) : Prop where
  joined : cs = left ++ mark ++ right
  outside : Outside left
  first : ∀ i < left.length, mark <+: cs.drop i → ¬Outside (cs.take i)

variable {Outside : List Char → Prop} {mark cs left right : List Char}

instance [DecidablePred Outside] : Decidable (IsCut Outside mark cs left right) :=
  decidable_of_iff (cs = left ++ mark ++ right ∧ Outside left ∧
      ∀ i < left.length, mark <+: cs.drop i → ¬Outside (cs.take i))
    ⟨fun ⟨hj, ho, hf⟩ => ⟨hj, ho, hf⟩, fun ⟨hj, ho, hf⟩ => ⟨hj, ho, hf⟩⟩

/-- An empty text has no cut. -/
theorem not_isCut_nil (hm : mark ≠ []) : ¬IsCut Outside mark [] left right := fun h => by
  have hj := h.joined.symm
  rw [List.append_eq_nil_iff, List.append_eq_nil_iff] at hj
  exact hm hj.1.2

/-- A mark at the start is the first one. -/
theorem isCut_start (h : Outside []) {rest : List Char} :
    IsCut Outside mark (mark ++ rest) left right ↔ left = [] ∧ right = rest := by
  constructor
  · intro hc
    have hl : left = [] := by
      by_contra hne
      exact hc.first 0 (List.length_pos_iff.2 hne) (List.prefix_append _ _) h
    subst hl
    exact ⟨rfl, (List.append_cancel_left hc.joined).symm⟩
  · rintro ⟨rfl, rfl⟩
    exact ⟨rfl, h, fun i hi => absurd hi (Nat.not_lt_zero i)⟩

/-- If there is no mark at the start, the cut is made behind the first character. -/
theorem isCut_cons {c : Char} (h : ¬(Outside [] ∧ mark <+: c :: cs)) :
    IsCut Outside mark (c :: cs) left right ↔
      ∃ l, left = c :: l ∧ IsCut (fun l => Outside (c :: l)) mark cs l right := by
  constructor
  · intro hc
    cases left with
    | nil => exact absurd ⟨hc.outside, right, hc.joined.symm⟩ h
    | cons d l =>
      obtain ⟨rfl, hj⟩ := List.cons.inj hc.joined
      exact ⟨l, rfl, hj, hc.outside, fun i hi => hc.first (i + 1) (Nat.succ_lt_succ hi)⟩
  · rintro ⟨l, rfl, hc⟩
    refine ⟨congrArg (c :: ·) hc.joined, hc.outside, fun i hi hm ho => ?_⟩
    cases i with
    | zero => exact h ⟨ho, hm⟩
    | succ i => exact hc.first i (Nat.lt_of_succ_lt_succ hi) hm ho

/-- Two readings that agree up to the mark cut there alike. -/
theorem IsCut.reread {P Q : List Char → Prop} (h : IsCut P mark cs left right)
    (hpq : ∀ l, l <+: left → (P l ↔ Q l)) : IsCut Q mark cs left right := by
  refine ⟨h.joined, (hpq left List.prefix_rfl).1 h.outside, fun i hi hm hq => ?_⟩
  have ht : cs.take i = left.take i := by
    rw [h.joined, List.append_assoc, List.take_append_of_le_length hi.le]
  refine h.first i hi hm ?_
  rw [ht] at hq ⊢
  exact (hpq _ (List.take_prefix i left)).2 hq

/-! ## Sections -/

/-- A text of plain characters and quoted sections; `Inside` says what may stand between two quotes.
-/
inductive Sections (Inside : Char → List Char → Prop) : List Char → Prop where
  | nil : Sections Inside []
  | plain {c : Char} {cs : List Char} : ¬IsQuote c → Sections Inside cs → Sections Inside (c :: cs)
  | quoted {quote : Char} {raw cs : List Char} : IsQuote quote → Inside quote raw →
      Sections Inside cs → Sections Inside (quote :: (raw ++ quote :: cs))

/-- What may stand between two quotes when a backslash takes the next character with it. -/
def WithEscapes (quote : Char) (raw : List Char) : Prop := ∃ text, IsLiteral quote raw text

/-- What may stand between two quotes when a backslash has no meaning. -/
def WithoutEscapes (quote : Char) (raw : List Char) : Prop := quote ∉ raw

/-- What may stand between two quotes whatever a backslash means: escapes, but none of the quote. -/
def EitherWay (quote : Char) (raw : List Char) : Prop :=
  WithEscapes quote raw ∧ WithoutEscapes quote raw

variable {Inside Finer : Char → List Char → Prop}

/-- A text that falls into some sections falls into any that admit more. -/
theorem Sections.mono (hf : ∀ {quote raw}, Finer quote raw → Inside quote raw)
    (h : Sections Finer cs) : Sections Inside cs := by
  induction h with
  | nil => exact .nil
  | plain hc _ ih => exact .plain hc ih
  | quoted hq hi _ ih => exact .quoted hq (hf hi) ih

/-- A quote that is opened is closed at one place only. -/
def ClosesOnce (Inside : Char → List Char → Prop) : Prop :=
  ∀ {quote : Char} {raw raw' rest rest' : List Char}, IsQuote quote → Inside quote raw →
    Inside quote raw' → raw ++ quote :: rest = raw' ++ quote :: rest' → raw = raw' ∧ rest = rest'

/-- A section with escapes ends at one quote. -/
theorem closesOnce_withEscapes : ClosesOnce WithEscapes := by
  rintro quote raw raw' rest rest' hq ⟨text, ht⟩ ⟨text', ht'⟩ he
  -- the text is read up to the closing quote, so that both readings leave the same rest
  have h : unquote quote (raw ++ quote :: rest) = some (text, rest) :=
    (unquote_eq_some hq.ne_backslash).2 ⟨raw, rfl, ht⟩
  have h' : unquote quote (raw ++ quote :: rest) = some (text', rest') :=
    (unquote_eq_some hq.ne_backslash).2 ⟨raw', he, ht'⟩
  obtain ⟨-, rfl⟩ := Prod.mk.inj (Option.some.inj (h.symm.trans h'))
  exact ⟨List.append_cancel_right he, rfl⟩

/-- A section without escapes ends at one quote. -/
theorem closesOnce_withoutEscapes : ClosesOnce WithoutEscapes := by
  intro quote raw raw' rest rest' _ hr hr' he
  -- the one that closes first would be among the characters of the other
  rcases List.append_eq_append_iff.1 he with ⟨mid, rfl, hm⟩ | ⟨mid, rfl, hm⟩
  · cases mid with
    | nil => exact ⟨(List.append_nil raw).symm, (List.cons.inj hm).2⟩
    | cons c mid =>
      obtain ⟨rfl, -⟩ := List.cons.inj hm
      exact absurd (List.mem_append_right _ List.mem_cons_self) hr'
  · cases mid with
    | nil => exact ⟨List.append_nil raw', (List.cons.inj hm).2.symm⟩
    | cons c mid =>
      obtain ⟨rfl, -⟩ := List.cons.inj hm
      exact absurd (List.mem_append_right _ List.mem_cons_self) hr

/-- Where a text falls into finer sections, a part of it does so too. -/
theorem Sections.of_prefix (hf : ∀ {quote raw}, Finer quote raw → Inside quote raw)
    (hu : ClosesOnce Inside) (h : Sections Finer cs) {l : List Char} (hl : Sections Inside l)
    (hp : l <+: cs) : Sections Finer l := by
  induction h generalizing l with
  | nil =>
    rw [List.prefix_nil.1 hp]
    exact .nil
  | plain hc _ ih =>
    cases hl with
    | nil => exact .nil
    | plain _ hl =>
      obtain ⟨rfl, ht⟩ := List.cons_prefix_cons.1 hp
      exact .plain hc (ih hl ht)
    | quoted hq _ _ =>
      obtain ⟨rfl, -⟩ := List.cons_prefix_cons.1 hp
      exact absurd hq hc
  | @quoted quote raw cs hq hi _ ih =>
    cases hl with
    | nil => exact .nil
    | plain hc _ =>
      obtain ⟨rfl, -⟩ := List.cons_prefix_cons.1 hp
      exact absurd hq hc
    | @quoted _ raw' l _ hi' hl =>
      obtain ⟨rfl, after, ha⟩ := List.cons_prefix_cons.1 hp
      rw [List.append_assoc, List.cons_append] at ha
      obtain ⟨rfl, hr⟩ := hu hq hi' (hf hi) ha
      exact .quoted hq hi (ih hl ⟨after, hr⟩)

/-- Where no section holds its own quote, it does not matter what a backslash means. -/
theorem sections_eitherWay (h : Sections EitherWay cs) {l : List Char} (hp : l <+: cs) :
    Sections WithEscapes l ↔ Sections WithoutEscapes l :=
  ⟨fun hl => (h.of_prefix And.left closesOnce_withEscapes hl hp).mono And.right,
    fun hl => (h.of_prefix And.right closesOnce_withoutEscapes hl hp).mono And.left⟩

/-! ## Sections that a scan passes -/

section Scan

variable {σ : Type} {next : σ → Char → σ} {outside : σ} {inside : Char → σ}

/-- **A scan that opens sections at quotes and closes them where they end** is outside them exactly
after a text that falls into sections. -/
theorem sections_iff_foldl (hopen : ∀ c, next outside c = if IsQuote c then inside c else outside)
    (hclose : ∀ quote, IsQuote quote → ∀ cs, cs.foldl next (inside quote) = outside ↔
      ∃ raw rest, cs = raw ++ quote :: rest ∧ Inside quote raw ∧ rest.foldl next outside = outside)
    (cs : List Char) : Sections Inside cs ↔ cs.foldl next outside = outside := by
  constructor
  · intro h
    induction h with
    | nil => rfl
    | plain hc _ ih =>
      rw [List.foldl_cons, hopen, if_neg hc]
      exact ih
    | quoted hq hi _ ih =>
      rw [List.foldl_cons, hopen, if_pos hq]
      exact (hclose _ hq _).2 ⟨_, _, rfl, hi, ih⟩
  · -- one section after the other: behind a closing quote the text is shorter
    intro h
    induction hn : cs.length using Nat.strong_induction_on generalizing cs with
    | _ n ih =>
      subst hn
      cases cs with
      | nil => exact .nil
      | cons c cs =>
        rw [List.foldl_cons, hopen] at h
        split at h
        · rename_i hq
          obtain ⟨raw, rest, rfl, hi, hr⟩ := (hclose c hq cs).1 h
          refine .quoted hq hi (ih rest.length ?_ rest hr rfl)
          simp only [List.length_cons, List.length_append]
          omega
        · rename_i hc
          exact .plain hc (ih cs.length (Nat.lt_succ_self _) cs h rfl)

end Scan

/-- A scan gets out of a quote behind the quote that ends the section with escapes. -/
theorem foldl_next_inside {quote : Char} (hq : IsQuote quote) (cs : List Char) :
    cs.foldl Quoting.next (.inside quote) = .outside ↔ ∃ raw rest, cs = raw ++ quote :: rest ∧
      WithEscapes quote raw ∧ rest.foldl Quoting.next .outside = .outside := by
  constructor
  · intro h
    induction hn : cs.length using Nat.strong_induction_on generalizing cs with
    | _ n ih =>
      subst hn
      cases cs with
      | nil => cases h
      | cons c cs =>
        rw [List.foldl_cons, Quoting.next] at h
        split at h
        · -- a backslash, and the character that it takes
          rename_i hc
          cases cs with
          | nil => cases h
          | cons d cs =>
            have hlt : cs.length < (c :: d :: cs).length := by
              rw [List.length_cons, List.length_cons]
              omega
            obtain ⟨raw, rest, rfl, ⟨text, ht⟩, hr⟩ := ih cs.length hlt cs h rfl
            exact ⟨'\\' :: d :: raw, rest, by rw [hc]; rfl, ⟨d :: text, .escaped ht⟩, hr⟩
        · rename_i hc
          split at h
          · rename_i hquote
            exact ⟨[], cs, by rw [hquote]; rfl, ⟨[], .nil⟩, h⟩
          · rename_i hne
            obtain ⟨raw, rest, rfl, ⟨text, ht⟩, hr⟩ := ih cs.length (Nat.lt_succ_self _) cs h rfl
            exact ⟨c :: raw, rest, rfl, ⟨c :: text, .plain hc hne ht⟩, hr⟩
  · rintro ⟨raw, rest, rfl, ⟨text, ht⟩, hr⟩
    induction ht with
    | nil =>
      rw [List.nil_append, List.foldl_cons, Quoting.next, if_neg hq.ne_backslash, if_pos rfl]
      exact hr
    | plain hc hne _ ih =>
      rw [List.cons_append, List.foldl_cons, Quoting.next, if_neg hc, if_neg hne]
      exact ih
    | escaped _ ih => exact ih

/-- The scan of a body stands outside quotes exactly after sections with escapes. -/
theorem sections_withEscapes_iff (cs : List Char) :
    Sections WithEscapes cs ↔ cs.foldl Quoting.next .outside = .outside :=
  sections_iff_foldl (fun _ => rfl) (fun _ hq => foldl_next_inside hq) cs

instance : DecidablePred (Sections WithEscapes) := fun cs =>
  decidable_of_iff _ (sections_withEscapes_iff cs).symm

/-- The quote that is open after one more character, when a backslash has no meaning. -/
def nextOpen : Option Char → Char → Option Char
  | none, c => if IsQuote c then some c else none
  | some quote, c => if c = quote then none else some quote

/-- A scan gets out of a quote behind the quote that ends the section without escapes. -/
theorem foldl_nextOpen_some (quote : Char) (cs : List Char) :
    cs.foldl nextOpen (some quote) = none ↔ ∃ raw rest, cs = raw ++ quote :: rest ∧
      WithoutEscapes quote raw ∧ rest.foldl nextOpen none = none := by
  constructor
  · intro h
    induction cs with
    | nil => cases h
    | cons c cs ih =>
      rw [List.foldl_cons, nextOpen] at h
      split at h
      · rename_i hc
        exact ⟨[], cs, by rw [hc]; rfl, List.not_mem_nil, h⟩
      · rename_i hc
        obtain ⟨raw, rest, rfl, hraw, hr⟩ := ih h
        exact ⟨c :: raw, rest, rfl, List.not_mem_cons_of_ne_of_not_mem (Ne.symm hc) hraw, hr⟩
  · rintro ⟨raw, rest, rfl, hraw, hr⟩
    induction raw with
    | nil =>
      rw [List.nil_append, List.foldl_cons, nextOpen, if_pos rfl]
      exact hr
    | cons c raw ih =>
      have hc := List.ne_of_not_mem_cons hraw
      rw [List.cons_append, List.foldl_cons, nextOpen, if_neg (Ne.symm hc)]
      exact ih (List.not_mem_of_not_mem_cons hraw)

/-- A text falls into sections without escapes exactly if the scan ends outside quotes. -/
theorem sections_withoutEscapes_iff (cs : List Char) :
    Sections WithoutEscapes cs ↔ cs.foldl nextOpen none = none :=
  sections_iff_foldl (fun _ => rfl) (fun quote _ => foldl_nextOpen_some quote) cs

/-! ## The two cuts of a marker -/

/-- A marker is closed at the first brace that the scan reaches outside quotes. -/
theorem closeFrom_eq_some_iff {q : Quoting} {body rest : List Char} :
    closeFrom q cs = some (body, rest) ↔
      IsCut (fun l => l.foldl Quoting.next q = .outside) ['}'] cs body rest := by
  induction cs generalizing q body with
  | nil => exact iff_of_false nofun (not_isCut_nil (List.cons_ne_nil _ _))
  | cons c cs ih =>
    by_cases hc : q = .outside ∧ c = '}'
    · obtain ⟨rfl, rfl⟩ := hc
      rw [closeFrom, if_pos ⟨rfl, rfl⟩]
      have hstart : ([] : List Char).foldl Quoting.next .outside = .outside := rfl
      refine Iff.trans ?_ (isCut_start hstart).symm
      simp only [Option.some.injEq, Prod.mk.injEq, eq_comm]
    · have hs : ¬(q = .outside ∧ ['}'] <+: c :: cs) := fun h =>
        hc ⟨h.1, (List.cons_prefix_cons.1 h.2).1.symm⟩
      rw [closeFrom, if_neg hc, Option.map_eq_some_iff]
      refine Iff.trans ?_ (isCut_cons hs).symm
      constructor
      · rintro ⟨⟨b, r⟩, hb, ⟨⟩⟩
        exact ⟨b, rfl, ih.1 hb⟩
      · rintro ⟨b, rfl, hb⟩
        exact ⟨(b, rest), ih.2 hb, rfl⟩

/-- **A marker ends at the first brace outside quoted sections,** in which a backslash takes the
next character with it. -/
theorem closeFrom_isCut {body rest : List Char} :
    closeFrom .outside cs = some (body, rest) ↔ IsCut (Sections WithEscapes) ['}'] cs body rest := by
  rw [closeFrom_eq_some_iff, funext fun l => propext (sections_withEscapes_iff l)]

/-- The mark before a default. -/
def bars : List Char := ['|', '|']

/-- Bars outside quotes divide at once. -/
theorem splitDefault_bars (cs : List Char) : splitDefault none (bars ++ cs) = ([], some cs) := by
  simp [splitDefault, bars]

/-- Without bars at the start, the body is cut behind its first character. -/
theorem splitDefault_cons {open? : Option Char} {c : Char}
    (h : ¬(open? = none ∧ bars <+: c :: cs)) :
    splitDefault open? (c :: cs) = extendCut c (splitDefault (nextOpen open? c) cs) := by
  cases open? with
  | some quote => rw [splitDefault, nextOpen]
  | none =>
    rw [splitDefault, nextOpen]
    by_cases hq : IsQuote c
    · rw [if_pos hq]
      exact if_pos hq
    · have hb : ¬(c = '|' ∧ cs.head? = some '|') := by
        rintro ⟨rfl, hh⟩
        obtain ⟨rest, rfl⟩ := List.head?_eq_some_iff.1 hh
        exact h ⟨rfl, rest, rfl⟩
      rw [if_neg hq]
      exact (if_neg hq).trans (if_neg hb)

/-- A marker is divided at the first bars that the scan reaches outside quotes. -/
theorem splitDefault_eq_some_iff {open? : Option Char} :
    splitDefault open? cs = (left, some right) ↔
      IsCut (fun l => l.foldl nextOpen open? = none) bars cs left right := by
  induction cs generalizing open? left with
  | nil => exact iff_of_false nofun (not_isCut_nil (List.cons_ne_nil _ _))
  | cons c cs ih =>
    by_cases hs : open? = none ∧ bars <+: c :: cs
    · obtain ⟨rfl, rest, hr⟩ := hs
      rw [← hr, splitDefault_bars]
      have hstart : ([] : List Char).foldl nextOpen none = none := rfl
      refine Iff.trans ?_ (isCut_start hstart).symm
      simp only [Prod.mk.injEq, Option.some.injEq, eq_comm]
    · rw [splitDefault_cons hs]
      refine Iff.trans ?_ (isCut_cons hs).symm
      constructor
      · intro h
        obtain ⟨hl, hr⟩ := Prod.mk.inj h
        exact ⟨_, hl.symm, ih.1 (Prod.ext rfl hr)⟩
      · rintro ⟨l, rfl, hl⟩
        rw [ih.2 hl]
        rfl

/-- **The bars before a default are the first ones outside quoted sections,** in which a backslash
has no meaning. -/
theorem splitDefault_isCut :
    splitDefault none cs = (left, some right) ↔
      IsCut (Sections WithoutEscapes) bars cs left right := by
  rw [splitDefault_eq_some_iff, funext fun l => propext (sections_withoutEscapes_iff l)]

/-- Without bars all of the body is the path. -/
theorem splitDefault_eq_none {open? : Option Char} (h : (splitDefault open? cs).2 = none) :
    splitDefault open? cs = (cs, none) := by
  induction cs generalizing open? with
  | nil => rfl
  | cons c cs ih =>
    by_cases hs : open? = none ∧ bars <+: c :: cs
    · obtain ⟨rfl, rest, hr⟩ := hs
      rw [← hr, splitDefault_bars] at h
      cases h
    · rw [splitDefault_cons hs] at h ⊢
      rw [ih h]
      rfl

/-- A marker without bars outside sections has no default. -/
theorem splitDefault_of_not_isCut
    (h : ∀ left right, ¬IsCut (Sections WithoutEscapes) bars cs left right) :
    splitDefault none cs = (cs, none) := by
  refine splitDefault_eq_none ?_
  cases hs : (splitDefault none cs).2 with
  | none => rfl
  | some right => exact absurd (splitDefault_isCut.1 (Prod.ext rfl hs)) (h _ _)

/-- A default is shown where the text before the bars is no path. -/
theorem markerText_of_splitDefault {body : List Char} (hs : splitDefault none body = (left, some right))
    (hp : Path.parse? (String.ofList (Text.trim left)) = none) (scopes : Scopes) :
    markerText scopes body = some (lenientDefault right) := by
  rw [markerText, hs]
  simp only [hp, Option.bind_none]

/-- **Where no section before the bars holds its own quote, both cuts of a marker agree on its
sections.**  The brace that closes a marker is the first one outside sections with escapes, the bars
before its default the first ones outside sections without.  Let the first bars outside sections
with escapes stand behind a text of which no section holds its own quote.  Then the body is cut at
these bars, and its default is shown if the text before them is no path.  Without such bars, a body
of which no section holds its own quote is not cut. -/
theorem splitDefault_among_sections (body : List Char) :
    (∀ rest, closeFrom .outside (body ++ '}' :: rest) = some (body, rest) ↔
      IsCut (Sections WithEscapes) ['}'] (body ++ '}' :: rest) body rest) ∧
    (∀ left right, splitDefault none body = (left, some right) ↔
      IsCut (Sections WithoutEscapes) bars body left right) ∧
    ((∀ left right, ¬IsCut (Sections WithoutEscapes) bars body left right) →
      splitDefault none body = (body, none)) ∧
    (∀ left right, IsCut (Sections WithEscapes) bars body left right → Sections EitherWay left →
      splitDefault none body = (left, some right) ∧
        ∀ scopes, Path.parse? (String.ofList (Text.trim left)) = none →
          markerText scopes body = some (lenientDefault right)) ∧
    ((∀ left right, ¬IsCut (Sections WithEscapes) bars body left right) → Sections EitherWay body →
      splitDefault none body = (body, none)) := by
  refine ⟨fun _ => closeFrom_isCut, fun _ _ => splitDefault_isCut, splitDefault_of_not_isCut,
    fun left right hc hs => ?_, fun hn hs => splitDefault_of_not_isCut fun left right hc => ?_⟩
  · have hcut := splitDefault_isCut.2 (hc.reread fun l hl => sections_eitherWay hs hl)
    exact ⟨hcut, fun scopes hp => markerText_of_splitDefault hcut hp scopes⟩
  · have hleft : left <+: body := by
      rw [hc.joined, List.append_assoc]
      exact List.prefix_append _ _
    exact hn left right (hc.reread fun l hl => (sections_eitherWay hs (hl.trans hleft)).symm)

/-- Bars within a section of the other quote, and behind a section with an escape, in front of a
default with its own quote in it. -/
theorem splitDefault_behind_section :
    IsCut (Sections WithEscapes) bars "'a\\n\"||' || \"x\\\"y\"".toList "'a\\n\"||' ".toList
        " \"x\\\"y\"".toList ∧
      Sections EitherWay "'a\\n\"||' ".toList ∧
      splitDefault none "'a\\n\"||' || \"x\\\"y\"".toList =
        ("'a\\n\"||' ".toList, some " \"x\\\"y\"".toList) ∧
      markerText {} "'a\\n\"||' || \"x\\\"y\"".toList = some "x\"y" := by
  have hcut : IsCut (Sections WithEscapes) bars "'a\\n\"||' || \"x\\\"y\"".toList
      "'a\\n\"||' ".toList " \"x\\\"y\"".toList := by
    decide +kernel
  have hleft : "'a\\n\"||' ".toList =
      '\'' :: (['a', '\\', 'n', '"', '|', '|'] ++ '\'' :: [' ']) := by
    decide
  have hraw : IsLiteral '\'' ['a', '\\', 'n', '"', '|', '|'] ['a', 'n', '"', '|', '|'] :=
    .plain (by decide) (by decide) (.escaped (.plain (by decide) (by decide)
      (.plain (by decide) (by decide) (.plain (by decide) (by decide) .nil))))
  have hs : Sections EitherWay "'a\\n\"||' ".toList := by
    rw [hleft]
    exact .quoted (.inr rfl) ⟨⟨_, hraw⟩, show '\'' ∉ _ by decide⟩ (.plain (by decide) .nil)
  obtain ⟨hsplit, hshown⟩ := (splitDefault_among_sections _).2.2.2.1 _ _ hcut hs
  exact ⟨hcut, hs, hsplit, (hshown {} (by decide +kernel)).trans (by decide +kernel)⟩

/-- Where a section holds its own quote, the bars behind it are missed: the marker shows nothing in
place of its default. -/
theorem splitDefault_misses_bars :
    closeFrom .outside "\"a\\\"b\" || \"d\"\x7d".toList =
        some ("\"a\\\"b\" || \"d\"".toList, []) ∧
      IsCut (Sections WithEscapes) bars "\"a\\\"b\" || \"d\"".toList "\"a\\\"b\" ".toList
        " \"d\"".toList ∧
      Path.parse? (String.ofList (Text.trim "\"a\\\"b\" ".toList)) = none ∧
      lenientDefault " \"d\"".toList = "d" ∧
      splitDefault none "\"a\\\"b\" || \"d\"".toList = ("\"a\\\"b\" || \"d\"".toList, none) ∧
      expand "$\x7b\"a\\\"b\" || \"d\"\x7d" (.forInvocation (.obj []) .null) = "" := by
  decide +kernel

end Template
end AgentTool
