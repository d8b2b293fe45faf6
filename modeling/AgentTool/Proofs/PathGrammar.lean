import AgentTool.Proofs.PathReadings

/-!
# The grammar of paths

A path is read by cutting its text at the dots, and each stretch at its brackets.  What is read in
this way is told by a grammar: a name, and behind it one piece for each further step.

| piece | step | `Step.Written` | `Step.Loose` |
| --- | --- | --- | --- |
| `.name` | key, unless the name is of digits alone | yes | |
| `.12` | index | yes | |
| `[12]`, with blanks inside the brackets or not | index | yes | |
| `[+12]`, with blanks inside the brackets or not | index | | yes |
| `.[12]`, `.[+12]` | index | | yes |

Every text of the written pieces is read as the steps that they stand for, and every text that is
read is made of written and of loose pieces, for the steps that it is read as (`parse_spells`).
`Step.Read` puts the two columns together and is exact (`parse_eq_ok`).  What the grammar says of a
whole text, `Spells`, is the same for any set of pieces.
-/

namespace AgentTool
namespace Path

/-! ## The grammar -/

/-- Digits that stand for an index. -/
structure IsNumeral (ds : List Char) (n : Nat) : Prop where
  nonempty : ds ≠ []
  digits : ∀ c ∈ ds, c.isDigit = true
  value : decimalValue ds = n
  inRange : n < indexBound

/-- Digits behind a plus sign. -/
inductive IsSigned : List Char → Nat → Prop where
  | plus {ds : List Char} {n : Nat} : IsNumeral ds n → IsSigned ('+' :: ds) n

/-- A text that stands for a number, with blanks around it or not. -/
inductive Padded (number : List Char → Nat → Prop) : List Char → Nat → Prop where
  | pad {before text after : List Char} {n : Nat} : (∀ c ∈ before, Text.isBlank c = true) →
      (∀ c ∈ after, Text.isBlank c = true) → number text n →
      Padded number (before ++ text ++ after) n

/-- What stands behind a dot: a key that is not of digits alone, or an index. -/
inductive Step.Dotted : Step → List Char → Prop where
  | key {name : String} : IsPlainName name → ¬IsDigits name → Dotted (.key name) name.toList
  | index {ds : List Char} {n : Nat} : IsNumeral ds n → Dotted (.index n) ds

/-- What stands between brackets is an index, written as `number` says. -/
inductive Step.Bracketed (number : List Char → Nat → Prop) : Step → List Char → Prop where
  | index {body : List Char} {n : Nat} : number body n →
      Bracketed number (.index n) ('[' :: (body ++ [']']))

/-- A step is written behind a dot, or between brackets. -/
inductive Step.Written (number : List Char → Nat → Prop) : Step → List Char → Prop where
  | dotted {s : Step} {cs : List Char} : s.Dotted cs → Written number s ('.' :: cs)
  | bracketed {s : Step} {cs : List Char} : s.Bracketed number cs → Written number s cs

/-- A step that is read though no step is written so: with a sign, or with both a dot and brackets.
-/
inductive Step.Loose : Step → List Char → Prop where
  | signed {s : Step} {cs : List Char} : s.Bracketed (Padded IsSigned) cs → Loose s cs
  | behindDot {s : Step} {cs : List Char} :
      s.Bracketed (Padded IsNumeral) cs ∨ s.Bracketed (Padded IsSigned) cs → Loose s ('.' :: cs)

/-- **A text spells a path** if it is the name that opens the path and behind it a piece for each of
the other steps, in order. -/
inductive Spells (piece : Step → List Char → Prop) : Path → List Char → Prop where
  | path {name : String} {rest : List Step} {pieces : List (List Char)} : IsPlainName name →
      List.Forall₂ piece rest pieces → Spells piece (.key name :: rest) (name.toList ++ pieces.flatten)

/-! ## What is read as a number -/

/-- Digits are read as an index exactly if they are the numeral of one in range. -/
theorem indexOfDigits?_eq_some {ds : List Char} {n : Nat} :
    indexOfDigits? ds = some n ↔ IsNumeral ds n := by
  unfold indexOfDigits?
  split
  · rename_i h
    obtain ⟨hne, hd, hlt⟩ := h
    constructor
    · rintro ⟨⟩
      exact ⟨hne, List.all_eq_true.1 hd, rfl, hlt⟩
    · exact fun hn => congrArg some hn.value
  · rename_i h
    refine ⟨nofun, fun hn => absurd ⟨hn.nonempty, List.all_eq_true.2 hn.digits, ?_⟩ h⟩
    rw [hn.value]
    exact hn.inRange

/-- A numeral has no blanks at its ends. -/
theorem IsNumeral.isTrimmed {ds : List Char} {n : Nat} (h : IsNumeral ds n) : Text.IsTrimmed ds :=
  Text.isTrimmed_of_forall fun c hc => isBlank_of_isKeyChar (isKeyChar_of_isDigit (h.digits c hc))

/-- A numeral behind a plus sign has no blanks at its ends. -/
theorem IsSigned.isTrimmed {cs : List Char} {n : Nat} (h : IsSigned cs n) : Text.IsTrimmed cs := by
  obtain ⟨hn⟩ := h
  refine Text.isTrimmed_of_forall (List.forall_mem_cons.2 ⟨by decide, fun c hc => ?_⟩)
  exact isBlank_of_isKeyChar (isKeyChar_of_isDigit (hn.digits c hc))

/-- **A subscript is read if it is an index, with or without a sign, and blanks around it.** -/
theorem subscript?_eq_some {body : List Char} {n : Nat} :
    subscript? body = some n ↔ Padded IsNumeral body n ∨ Padded IsSigned body n := by
  constructor
  · intro h
    obtain ⟨before, after, hbody, hb, ha, -⟩ := Text.exists_blanks_around body
    rw [hbody]
    unfold subscript? at h
    split at h
    · rename_i ds ht
      rw [ht]
      exact .inr (.pad hb ha (.plus (indexOfDigits?_eq_some.1 h)))
    · exact .inl (.pad hb ha (indexOfDigits?_eq_some.1 h))
  · rintro (⟨hb, ha, hn⟩ | ⟨hb, ha, hn⟩)
    · rw [subscript?, hn.isTrimmed.trim_surrounded hb ha]
      split
      · have hplus : ('+').isDigit = true := hn.digits '+' List.mem_cons_self
        cases hplus
      · exact indexOfDigits?_eq_some.2 hn
    · rw [subscript?, hn.isTrimmed.trim_surrounded hb ha]
      obtain ⟨hn⟩ := hn
      exact indexOfDigits?_eq_some.2 hn

/-- The characters of a subscript: digits, blanks, and a sign. -/
theorem mem_subscript {body : List Char} {n : Nat} (h : subscript? body = some n) {c : Char}
    (hc : c ∈ body) : Text.isBlank c = true ∨ c.isDigit = true ∨ c = '+' := by
  rcases subscript?_eq_some.1 h with h | h
  · obtain ⟨hb, ha, hn⟩ := h
    rcases List.mem_append.1 hc with hc | hc
    · exact (List.mem_append.1 hc).imp (hb c) fun hc => .inl (hn.digits c hc)
    · exact .inl (ha c hc)
  · obtain ⟨hb, ha, hn⟩ := h
    obtain ⟨hn⟩ := hn
    rcases List.mem_append.1 hc with hc | hc
    · refine (List.mem_append.1 hc).imp (hb c) fun hc => ?_
      exact (List.mem_cons.1 hc).elim .inr fun hc => .inl (hn.digits c hc)
    · exact .inl (ha c hc)

/-- A subscript consists of digits, blanks and plus signs. -/
theorem notMem_subscript {body : List Char} {n : Nat} (h : subscript? body = some n) {c : Char}
    (hb : Text.isBlank c = false) (hd : c.isDigit = false) (hs : c ≠ '+') : c ∉ body := by
  intro hc
  rcases mem_subscript h hc with h | h | h
  · rw [hb] at h
    cases h
  · rw [hd] at h
    cases h
  · exact hs h

/-! ## What is read between brackets -/

/-- A step between brackets, as it is read. -/
abbrev Step.Subscripted (s : Step) (cs : List Char) : Prop :=
  s.Bracketed (fun body n => subscript? body = some n) cs

/-- What is read between brackets is a numeral, with a plus sign or without, between blanks. -/
theorem Step.subscripted_iff {s : Step} {cs : List Char} :
    s.Subscripted cs ↔ s.Bracketed (Padded IsNumeral) cs ∨ s.Bracketed (Padded IsSigned) cs := by
  constructor
  · rintro ⟨h⟩
    exact (subscript?_eq_some.1 h).imp .index .index
  · rintro (h | h)
    · obtain ⟨h⟩ := h
      exact .index (subscript?_eq_some.2 (.inl h))
    · obtain ⟨h⟩ := h
      exact .index (subscript?_eq_some.2 (.inr h))

/-- The first pair of brackets is read, and then what follows it. -/
theorem subscripts_cons {segment : String} {body rest : List Char} (hb : ']' ∉ body) :
    subscripts segment ('[' :: (body ++ ']' :: rest)) =
      match subscript? body with
      | none => .error (.badIndex (String.ofList body))
      | some n => (subscripts segment rest).map (.index n :: ·) := by
  have hcut : Text.breakAt ']' (body ++ ']' :: rest) = (body, some rest) :=
    Text.breakAt_eq_some.2 ⟨rfl, hb⟩
  rw [subscripts]
  split
  · rename_i hn
    cases hcut.symm.trans hn
  · rename_i text tail hs
    obtain ⟨rfl, ht⟩ := Prod.mk.inj (hcut.symm.trans hs)
    obtain rfl := Option.some.inj ht
    cases subscript? body with
    | none => rfl
    | some n => cases subscripts segment rest <;> rfl

/-- **Subscripts are read one by one.** -/
theorem subscripts_eq_ok {segment : String} {cs : List Char} {steps : List Step} :
    subscripts segment cs = .ok steps ↔
      ∃ pieces, List.Forall₂ Step.Subscripted steps pieces ∧ cs = pieces.flatten := by
  constructor
  · intro h
    fun_induction subscripts segment cs generalizing steps with
    | case1 =>
      cases h
      exact ⟨[], .nil, rfl⟩
    | case2 => cases h
    | case3 => cases h
    | case4 body text rest hcut n hn more hmore ih =>
      cases h
      obtain ⟨pieces, hp, rfl⟩ := ih hmore
      obtain ⟨rfl, -⟩ := Text.breakAt_eq_some.1 hcut
      exact ⟨_, .cons (.index hn) hp, by simp⟩
    | case5 => cases h
    | case6 => cases h
  · rintro ⟨pieces, hp, rfl⟩
    induction hp with
    | nil => rw [List.flatten_nil, subscripts]
    | @cons s piece rest pieces hs _ ih =>
      obtain ⟨hn⟩ := hs
      rename_i body n
      have hb : ']' ∉ body := notMem_subscript hn (by decide) (by decide) (by decide)
      have he : (('[' :: (body ++ [']'])) :: pieces).flatten =
          '[' :: (body ++ ']' :: pieces.flatten) := by
        simp
      rw [he, subscripts_cons hb, hn, ih]
      rfl

/-! ## What is read between dots -/

/-- The first key of a path is read as a name, also if it is of digits. -/
theorem keyStep_first {key : List Char} {s : Step} (hne : key ≠ []) :
    keyStep true key = .ok s ↔ ∃ name, s = .key name ∧ IsPlainName name ∧ name.toList = key := by
  have hname : ∀ {name : String}, name.toList = key → name = String.ofList key := fun h => by
    rw [← h, String.ofList_toList]
  unfold keyStep
  split
  · rename_i hk
    refine ⟨nofun, ?_⟩
    rintro ⟨name, -, hn, rfl⟩
    rw [List.all_eq_true.2 hn.2] at hk
    cases hk
  · rename_i hk
    have hall : key.all isKeyChar = true := by simpa using hk
    constructor
    · rintro ⟨⟩
      exact ⟨_, rfl, isPlainName_ofList hne hall, String.toList_ofList⟩
    · rintro ⟨name, rfl, -, hl⟩
      rw [hname hl]
      rfl

/-- **A key behind a dot is read as the step that is written so.** -/
theorem keyStep_behind {key : List Char} {s : Step} (hne : key ≠ []) :
    keyStep false key = .ok s ↔ s.Dotted key := by
  constructor
  · intro h
    unfold keyStep at h
    split at h
    · cases h
    rename_i hk
    have hplain : IsPlainName (String.ofList key) := isPlainName_ofList hne (by simpa using hk)
    split at h
    · split at h
      · rename_i n hn
        cases h
        exact .index (indexOfDigits?_eq_some.1 hn)
      · cases h
    · rename_i hd
      cases h
      have hword : ¬IsDigits (String.ofList key) := by
        rw [IsDigits, String.toList_ofList]
        exact fun hall => hd (by rw [List.all_eq_true.2 hall]; rfl)
      have hs := Step.Dotted.key hplain hword
      rwa [String.toList_ofList] at hs
  · intro h
    cases h with
    | key hn hd => exact Except.toOption_eq_some.1 (dotted?_word hn hd)
    | index hn =>
      have hk : key.all isKeyChar = true :=
        List.all_eq_true.2 fun c hc => isKeyChar_of_isDigit (hn.digits c hc)
      rw [keyStep, hk, List.all_eq_true.2 hn.digits, indexOfDigits?_eq_some.2 hn]
      rfl

/-- A step as it is read: behind a dot or between brackets, or both. -/
inductive Step.Read : Step → List Char → Prop where
  | dotted {s : Step} {cs : List Char} : s.Dotted cs → Read s ('.' :: cs)
  | bracketed {s : Step} {cs : List Char} : s.Subscripted cs → Read s cs
  | behindDot {s : Step} {cs : List Char} : s.Subscripted cs → Read s ('.' :: cs)

/-- **A stretch at the start of a path is a name and subscripts.** -/
theorem segment_opening {p : String} {cs : List Char} {steps : List Step}
    (h : segment p true cs = .ok steps) :
    ∃ name rest pieces, steps = .key name :: rest ∧ IsPlainName name ∧
      List.Forall₂ Step.Subscripted rest pieces ∧ cs = name.toList ++ pieces.flatten := by
  have hk := key_ne_nil_of_segment h
  rw [segment_of_key hk] at h
  obtain ⟨step, hstep, h⟩ := Except.bind_eq_ok.1 h
  obtain ⟨rest, hrest, rfl⟩ := Except.map_eq_ok.1 h
  obtain ⟨name, rfl, hname, hkey⟩ := (keyStep_first hk).1 hstep
  obtain ⟨pieces, hp, hflat⟩ := subscripts_eq_ok.1 hrest
  refine ⟨name, rest, pieces, rfl, hname, hp, ?_⟩
  rw [hkey, ← hflat, List.takeWhile_append_dropWhile]

/-- **A stretch behind a dot is pieces,** of which the first stands behind the dot. -/
theorem segment_behind {p : String} {cs : List Char} {steps : List Step}
    (h : segment p false cs = .ok steps) :
    ∃ pieces, List.Forall₂ Step.Read steps pieces ∧ '.' :: cs = pieces.flatten := by
  by_cases hk : cs.takeWhile (· != '[') = []
  · have hne : ¬cs.isEmpty = true := by
      intro hne
      simp [segment, hne] at h
    have hs : subscripts (String.ofList cs) (cs.dropWhile (· != '[')) = .ok steps := by
      simpa [segment, hne, hk] using h
    obtain ⟨pieces, hp, hflat⟩ := subscripts_eq_ok.1 hs
    have hcs : cs = pieces.flatten := by
      rw [← hflat, ← List.nil_append (cs.dropWhile _), ← hk, List.takeWhile_append_dropWhile]
    cases hp with
    | nil => simp [hcs] at hne
    | cons hfirst hp =>
      refine ⟨_, .cons (.behindDot hfirst) (hp.imp fun _ _ => .bracketed), ?_⟩
      rw [hcs, List.flatten_cons, List.flatten_cons, List.cons_append]
  · rw [segment_of_key hk] at h
    obtain ⟨step, hstep, h⟩ := Except.bind_eq_ok.1 h
    obtain ⟨rest, hrest, rfl⟩ := Except.map_eq_ok.1 h
    obtain ⟨pieces, hp, hflat⟩ := subscripts_eq_ok.1 hrest
    refine ⟨_, .cons (.dotted ((keyStep_behind hk).1 hstep)) (hp.imp fun _ _ => .bracketed), ?_⟩
    rw [List.flatten_cons, ← hflat, List.cons_append, List.takeWhile_append_dropWhile]

/-- What is read behind the first stretch is made of pieces, one for each step. -/
theorem segments_behind {p : String} {fs : List (List Char)} {steps : List Step}
    (h : segments p false fs = .ok steps) :
    ∃ pieces, List.Forall₂ Step.Read steps pieces ∧ fs.flatMap ('.' :: ·) = pieces.flatten := by
  induction fs generalizing steps with
  | nil =>
    cases h
    exact ⟨[], .nil, rfl⟩
  | cons f fs ih =>
    obtain ⟨first, hfirst, h⟩ := Except.bind_eq_ok.1 h
    obtain ⟨more, hmore, h⟩ := Except.bind_eq_ok.1 h
    obtain rfl := Except.ok.inj h
    obtain ⟨ps, hps, hf⟩ := segment_behind hfirst
    obtain ⟨qs, hqs, hfs⟩ := ih hmore
    refine ⟨ps ++ qs, List.rel_append hps hqs, ?_⟩
    rw [List.flatMap_cons, hf, hfs, List.flatten_append]

/-! ## What is written is read -/

/-- A text without dots that is read as some steps, and as more of them if subscripts follow it. -/
structure Opens (p : String) (first : Bool) (text : List Char) (steps : List Step) : Prop where
  undotted : '.' ∉ text
  read : ∀ rest pieces, List.Forall₂ Step.Subscripted rest pieces →
    segment p first (text ++ pieces.flatten) = .ok (steps ++ rest)

/-- A subscript has no dot. -/
theorem Step.Subscripted.undotted {s : Step} {cs : List Char} (h : s.Subscripted cs) : '.' ∉ cs := by
  obtain ⟨hn⟩ := h
  have hb := notMem_subscript (c := '.') hn (by decide) (by decide) (by decide)
  simp [hb]

/-- A subscript at the end of a stretch is read as one step more. -/
theorem Opens.append {p : String} {first : Bool} {text : List Char} {steps : List Step}
    (h : Opens p first text steps) {s : Step} {cs : List Char} (hs : s.Subscripted cs) :
    Opens p first (text ++ cs) (steps ++ [s]) := by
  constructor
  · rw [List.mem_append, not_or]
    exact ⟨h.undotted, hs.undotted⟩
  · intro rest pieces hp
    have hr := h.read (s :: rest) (cs :: pieces) (.cons hs hp)
    rwa [List.flatten_cons, ← List.append_assoc, List.append_cons steps] at hr

/-- Behind a key the subscripts follow. -/
theorem segment_append {p : String} {first : Bool} {key : List Char} {s : Step} (hne : key ≠ [])
    (hb : '[' ∉ key) (hs : keyStep first key = .ok s) {rest : List Step} {pieces : List (List Char)}
    (hp : List.Forall₂ Step.Subscripted rest pieces) :
    segment p first (key ++ pieces.flatten) = .ok (s :: rest) := by
  have hopen : ∀ c ∈ key, (c != '[') = true := by
    intro c hc
    have hc' : c ≠ '[' := fun he => hb (he ▸ hc)
    simpa using hc'
  have hflat : pieces.flatten.takeWhile (· != '[') = [] ∧
      pieces.flatten.dropWhile (· != '[') = pieces.flatten := by
    cases hp with
    | nil => exact ⟨rfl, rfl⟩
    | cons h _ =>
      obtain ⟨-⟩ := h
      simp
  have htake : (key ++ pieces.flatten).takeWhile (· != '[') = key := by
    rw [List.takeWhile_append_of_pos hopen, hflat.1, List.append_nil]
  have hdrop : (key ++ pieces.flatten).dropWhile (· != '[') = pieces.flatten := by
    rw [List.dropWhile_append_of_pos hopen, hflat.2]
  rw [segment_of_key (by rwa [htake]), htake, hdrop, hs, subscripts_eq_ok.2 ⟨pieces, hp, rfl⟩]
  rfl

/-- A name opens a path. -/
theorem opens_name {p name : String} (h : IsPlainName name) :
    Opens p true name.toList [.key name] := by
  have hs : keyStep true name.toList = .ok (.key name) :=
    (keyStep_first h.toList_ne_nil).2 ⟨name, rfl, h, rfl⟩
  exact ⟨h.notMem (by decide), fun rest pieces hp =>
    segment_append h.toList_ne_nil (h.notMem (by decide)) hs hp⟩

/-- A piece behind a dot consists of the characters of keys. -/
theorem Step.Dotted.isKeyChar {s : Step} {cs : List Char} (h : s.Dotted cs) :
    cs ≠ [] ∧ ∀ c ∈ cs, isKeyChar c = true := by
  cases h with
  | key hn _ => exact ⟨hn.toList_ne_nil, hn.2⟩
  | index hn => exact ⟨hn.nonempty, fun c hc => isKeyChar_of_isDigit (hn.digits c hc)⟩

/-- A character that is not for keys is not in a piece behind a dot. -/
theorem Step.Dotted.notMem {s : Step} {cs : List Char} (h : s.Dotted cs) {c : Char}
    (hc : Path.isKeyChar c = false) : c ∉ cs := by
  intro hm
  rw [h.isKeyChar.2 c hm] at hc
  cases hc

/-- What is written behind a dot opens a stretch. -/
theorem opens_dotted {p : String} {s : Step} {cs : List Char} (h : s.Dotted cs) :
    Opens p false cs [s] :=
  ⟨h.notMem (by decide), fun _ _ hp =>
    segment_append h.isKeyChar.1 (h.notMem (by decide)) ((keyStep_behind h.isKeyChar.1).2 h) hp⟩

/-- A subscript behind a dot opens a stretch. -/
theorem opens_subscripted {p : String} {s : Step} {cs : List Char} (h : s.Subscripted cs) :
    Opens p false cs [s] := by
  refine ⟨h.undotted, fun rest pieces hp => ?_⟩
  have hs : ∀ q, subscripts q (cs ++ pieces.flatten) = .ok (s :: rest) := fun q =>
    subscripts_eq_ok.2 ⟨cs :: pieces, .cons h hp, rfl⟩
  obtain ⟨-⟩ := h
  simpa [segment] using hs _

/-- **Pieces are read as their steps, one by one.**  Each piece goes on with the stretch that stands
open, or ends it and opens the next one. -/
theorem segments_of_pieces {p : String} {rest : List Step} {pieces : List (List Char)}
    (h : List.Forall₂ Step.Read rest pieces) {first : Bool} {text : List Char} {steps : List Step}
    (ho : Opens p first text steps) :
    segments p first (Text.fields '.' (text ++ pieces.flatten)) = .ok (steps ++ rest) := by
  induction h generalizing first text steps with
  | nil =>
    have hs := ho.read [] [] .nil
    rw [List.flatten_nil, List.append_nil] at hs ⊢
    rw [Text.fields_of_notMem ho.undotted, segments, hs]
    simp [segments, bind, Except.bind]
    rfl
  | @cons s piece rest pieces hr _ ih =>
    -- the open stretch ends at the dot of the piece
    have hend : ∀ {cs : List Char}, Opens p false cs [s] →
        segments p first (Text.fields '.' (text ++ ('.' :: cs ++ pieces.flatten))) =
          .ok (steps ++ s :: rest) := by
      intro cs hcs
      have hs := ho.read [] [] .nil
      rw [List.flatten_nil, List.append_nil, List.append_nil] at hs
      rw [List.cons_append, Text.fields_append ho.undotted, segments, hs]
      simp only [bind, Except.bind, ih hcs]
      rfl
    rw [List.flatten_cons]
    cases hr with
    | dotted h => exact hend (opens_dotted h)
    | behindDot h => exact hend (opens_subscripted h)
    | bracketed h =>
      have hi := ih (ho.append h)
      rwa [List.append_assoc, List.append_assoc] at hi

/-! ## The grammar is what is read -/

/-- What spells a path is not empty. -/
theorem Spells.ne_nil {piece : Step → List Char → Prop} {path : Path} {cs : List Char}
    (h : Spells piece path cs) : cs ≠ [] := by
  obtain ⟨hn, _⟩ := h
  simp [hn.1]

/-- **A text is read as the path that it spells, without the blanks around it.** -/
theorem parse_eq_ok {text : String} {path : Path} :
    parse text = .ok path ↔ Spells Step.Read path (Text.trim text.toList) := by
  unfold parse
  generalize Text.trim text.toList = cs
  constructor
  · intro h
    by_cases hne : cs.isEmpty = true
    · simp [hne] at h
    simp only [if_neg hne] at h
    obtain ⟨f, fs, hfs⟩ := List.exists_cons_of_ne_nil (Text.fields_ne_nil '.' cs)
    rw [hfs] at h
    obtain ⟨first, hfirst, h⟩ := Except.bind_eq_ok.1 h
    obtain ⟨more, hmore, h⟩ := Except.bind_eq_ok.1 h
    obtain rfl := Except.ok.inj h
    obtain ⟨name, rest, ps, rfl, hname, hps, hf⟩ := segment_opening hfirst
    obtain ⟨qs, hqs, hflat⟩ := segments_behind hmore
    have hcs : cs = name.toList ++ (ps ++ qs).flatten := by
      have hj := Text.flatMap_fields '.' cs
      rw [hfs, List.flatMap_cons, hflat, List.cons_append] at hj
      rw [List.flatten_append, ← List.append_assoc, ← hf]
      exact (List.cons.inj hj).2.symm
    rw [hcs]
    exact .path hname (List.rel_append (hps.imp fun _ _ => .bracketed) hqs)
  · intro h
    have hne : ¬cs.isEmpty = true := by simpa using h.ne_nil
    obtain ⟨hname, hp⟩ := h
    simp only [if_neg hne]
    exact segments_of_pieces hp (opens_name hname)

/-! ## What is read and what is written -/

/-- A path that is spelled with some pieces is spelled with any more. -/
theorem Spells.imp {P Q : Step → List Char → Prop} (h : ∀ s cs, P s cs → Q s cs) {path : Path}
    {cs : List Char} (hs : Spells P path cs) : Spells Q path cs := by
  obtain ⟨hn, hp⟩ := hs
  exact .path hn (hp.imp h)

/-- What holds of the characters of names and pieces holds of all characters. -/
theorem Spells.forall_mem {piece : Step → List Char → Prop} {P : Char → Prop}
    (hkey : ∀ c, isKeyChar c = true → P c) (hpiece : ∀ s cs, piece s cs → ∀ c ∈ cs, P c)
    {path : Path} {cs : List Char} (h : Spells piece path cs) : ∀ c ∈ cs, P c := by
  obtain ⟨hn, hp⟩ := h
  refine List.forall_mem_append.2 ⟨fun c hc => hkey c (hn.2 c hc), ?_⟩
  induction hp with
  | nil => nofun
  | cons hs _ ih => exact List.forall_mem_append.2 ⟨hpiece _ _ hs, ih⟩

/-- A step that is written with some numbers is written with any more. -/
theorem Step.Written.mono {P Q : List Char → Nat → Prop} (h : ∀ body n, P body n → Q body n)
    {s : Step} {cs : List Char} (hs : s.Written P cs) : s.Written Q cs := by
  cases hs with
  | dotted hd => exact .dotted hd
  | bracketed hb =>
    obtain ⟨hn⟩ := hb
    exact .bracketed (.index (h _ _ hn))

/-- A piece that is read is written, or loose. -/
theorem Step.read_iff {s : Step} {cs : List Char} :
    s.Read cs ↔ s.Written (Padded IsNumeral) cs ∨ s.Loose cs := by
  constructor
  · rintro (h | h | h)
    · exact .inl (.dotted h)
    · exact (Step.subscripted_iff.1 h).imp .bracketed .signed
    · exact .inr (.behindDot (Step.subscripted_iff.1 h))
  · rintro ((h | h) | (h | h))
    · exact .dotted h
    · exact .bracketed (Step.subscripted_iff.2 (.inl h))
    · exact .bracketed (Step.subscripted_iff.2 (.inr h))
    · exact .behindDot (Step.subscripted_iff.2 h)

/-- The characters of paths: those of names, blanks, dots, brackets and signs. -/
def IsPathChar (c : Char) : Prop :=
  isKeyChar c = true ∨ Text.isBlank c = true ∨ c ∈ ['.', '[', ']', '+']

instance : DecidablePred IsPathChar := fun _ => inferInstanceAs (Decidable (_ ∨ _ ∨ _))

/-- A subscript consists of the characters of paths. -/
theorem Step.Subscripted.forall_mem {s : Step} {cs : List Char} (h : s.Subscripted cs) :
    ∀ c ∈ cs, IsPathChar c := by
  obtain ⟨hn⟩ := h
  refine List.forall_mem_cons.2 ⟨by decide, List.forall_mem_append.2 ⟨fun c hc => ?_, ?_⟩⟩
  · rcases mem_subscript hn hc with hb | hd | rfl
    · exact .inr (.inl hb)
    · exact .inl (isKeyChar_of_isDigit hd)
    · decide
  · exact List.forall_mem_singleton.2 (by decide)

/-- A piece of a path consists of the characters of paths. -/
theorem Step.Read.forall_mem {s : Step} {cs : List Char} (h : s.Read cs) :
    ∀ c ∈ cs, IsPathChar c := by
  cases h with
  | dotted h => exact List.forall_mem_cons.2 ⟨by decide, fun c hc => .inl (h.isKeyChar.2 c hc)⟩
  | bracketed h => exact h.forall_mem
  | behindDot h => exact List.forall_mem_cons.2 ⟨by decide, h.forall_mem⟩

/-- **No other characters stand in the text of a path.** -/
theorem isPathChar_of_parse {text : String} {path : Path} (h : parse text = .ok path) :
    ∀ c ∈ text.toList, IsPathChar c := by
  obtain ⟨before, after, ht, hb, ha, -⟩ := Text.exists_blanks_around text.toList
  rw [ht]
  refine List.forall_mem_append.2 ⟨List.forall_mem_append.2 ⟨?_, ?_⟩, ?_⟩
  · exact fun c hc => .inr (.inl (hb c hc))
  · exact (parse_eq_ok.1 h).forall_mem (fun _ => .inl) fun _ _ hr => hr.forall_mem
  · exact fun c hc => .inr (.inl (ha c hc))

/-- A character that is not for paths is not in the text of a path. -/
theorem notMem_of_parse {text : String} {path : Path} (h : parse text = .ok path) {c : Char}
    (hc : ¬IsPathChar c) : c ∉ text.toList := fun hm => hc (isPathChar_of_parse h c hm)

/-- **The grammar of paths.**  A text that spells a path with written pieces is read as this path;
and a text that is read as a path spells this path, with a written or a loose piece for each step.
-/
theorem parse_spells (text : String) (path : Path) :
    (Spells (Step.Written (Padded IsNumeral)) path (Text.trim text.toList) →
      parse text = .ok path) ∧
    (parse text = .ok path →
      Spells (fun step piece => step.Written (Padded IsNumeral) piece ∨ step.Loose piece) path
        (Text.trim text.toList)) := by
  rw [parse_eq_ok]
  constructor
  · exact Spells.imp fun _ _ hw => Step.read_iff.2 (.inl hw)
  · exact Spells.imp fun _ _ hr => Step.read_iff.1 hr

/-- A path with a key, an index behind a dot, and an index between brackets with blanks in them. -/
theorem parse_spelled_steps :
    Spells (Step.Written (Padded IsNumeral)) [.key "a", .key "b-1", .index 3, .index 2]
        (Text.trim " a.b-1.03[ 2 ]".toList) ∧
      parse " a.b-1.03[ 2 ]" = .ok [.key "a", .key "b-1", .index 3, .index 2] := by
  have key : Step.Dotted (.key "b-1") "b-1".toList :=
    .key ⟨by decide, List.all_eq_true.1 (by decide)⟩ fun h => absurd (h 'b' (by decide)) (by decide)
  have dotted : Step.Dotted (.index 3) ['0', '3'] :=
    .index ⟨by decide, List.all_eq_true.1 (by decide), by decide, by decide⟩
  have digit : IsNumeral ['2'] 2 :=
    ⟨by decide, List.all_eq_true.1 (by decide), by decide, by decide⟩
  have blank : ∀ c ∈ [' '], Text.isBlank c = true := List.forall_mem_singleton.2 (by decide)
  have subscript : Padded IsNumeral [' ', '2', ' '] 2 := .pad blank blank digit
  have pieces : List.Forall₂ (Step.Written (Padded IsNumeral)) [.key "b-1", .index 3, .index 2]
      ['.' :: "b-1".toList, ['.', '0', '3'], ['[', ' ', '2', ' ', ']']] :=
    .cons (.dotted key) (.cons (.dotted dotted) (.cons (.bracketed (.index subscript)) .nil))
  have name : IsPlainName "a" := ⟨by decide, List.all_eq_true.1 (by decide)⟩
  have h : Spells (Step.Written (Padded IsNumeral)) [.key "a", .key "b-1", .index 3, .index 2]
      (Text.trim " a.b-1.03[ 2 ]".toList) := Spells.path name pieces
  exact ⟨h, (parse_spells _ _).1 h⟩

/-- A text whose numbers are digits alone has no blanks. -/
theorem Spells.isBlank_eq_false {path : Path} {cs : List Char}
    (h : Spells (Step.Written IsNumeral) path cs) : ∀ c ∈ cs, Text.isBlank c = false := by
  refine h.forall_mem (fun _ => isBlank_of_isKeyChar) fun s cs hs => ?_
  cases hs with
  | dotted hd =>
    exact List.forall_mem_cons.2 ⟨by decide, fun c hc => isBlank_of_isKeyChar (hd.isKeyChar.2 c hc)⟩
  | bracketed hb =>
    obtain ⟨hn⟩ := hb
    refine List.forall_mem_cons.2 ⟨by decide, fun c hc => ?_⟩
    rcases List.mem_append.1 hc with hc | hc
    · exact isBlank_of_isKeyChar (isKeyChar_of_isDigit (hn.digits c hc))
    · rw [List.mem_singleton.1 hc]
      decide

/-- Where more is read than a name, keys and indices alone: blanks in brackets. -/
theorem parse_padded_subscript :
    parse "a[ 0 ]" = .ok [.key "a", .index 0] ∧
      ∀ path, ¬Spells (Step.Written IsNumeral) path (Text.trim "a[ 0 ]".toList) := by
  constructor
  · decide +kernel
  · intro path h
    cases h.isBlank_eq_false ' ' (by decide)

end Path
end AgentTool
