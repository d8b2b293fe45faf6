import AgentTool.Path.Walk
import AgentTool.Proofs.TextLaws
import AgentTool.Proofs.WellFormed

/-!
# Paths behind a name

A path that is put behind a name and a dot is read as one path: the name, and then the steps of the
path, of which only the first may change (`Path.parse_behind`).  At the start of a path a text of
digits is a key; behind a dot it is an index.

| name | behind a dot | leads into an object under |
| --- | --- | --- |
| not of digits alone | key | the name |
| numeral of an index | index | the name |
| digits with leading zeros | index | the digits without them |
| digits out of range | no step | nothing |

So a name of the first two kinds (`Path.IsDotted`) leads to the entry that it names, wherever it
stands.
-/

namespace AgentTool

namespace Path

/-! ## Plain names -/

/-- A character of a key is no blank. -/
theorem isBlank_of_isKeyChar {c : Char} (h : isKeyChar c = true) : Text.isBlank c = false := by
  have hn : 48 ≤ c.toNat ∧ c.toNat ≤ 122 ∨ c.toNat = 45 := by
    have hc : isKeyChar c = (decide (65 ≤ c.val ∧ c.val ≤ 90) ||
        decide (97 ≤ c.val) && decide (c.val ≤ 122) || decide (48 ≤ c.val) && decide (c.val ≤ 57) ||
        c == '_' || c == '-') := rfl
    rw [hc] at h
    simp only [Bool.or_eq_true, Bool.and_eq_true, decide_eq_true_eq, beq_iff_eq,
      UInt32.le_iff_toNat_le] at h
    change ((((65 ≤ c.toNat ∧ c.toNat ≤ 90) ∨ (97 ≤ c.toNat ∧ c.toNat ≤ 122)) ∨
      (48 ≤ c.toNat ∧ c.toNat ≤ 57)) ∨ c = '_') ∨ c = '-' at h
    rcases h with (h | rfl) | rfl
    · omega
    · decide
    · decide
  simp [Text.isBlank, Text.inRanges, Text.blankRanges]
  omega

/-- A digit is a character of keys. -/
theorem isKeyChar_of_isDigit {c : Char} (h : c.isDigit = true) : isKeyChar c = true := by
  have hc : isKeyChar c = (c.isAlpha || c.isDigit || c == '_' || c == '-') := rfl
  simp [hc, h]

end Path

variable {name scope key : String}

/-- A character that is not for keys is not in a plain name. -/
theorem IsPlainName.notMem (h : IsPlainName name) {c : Char} (hc : Path.isKeyChar c = false) :
    c ∉ name.toList := by
  intro hm
  rw [h.2 c hm] at hc
  cases hc

/-- A plain name has no blanks at its ends. -/
theorem IsPlainName.isTrimmed (h : IsPlainName name) : Text.IsTrimmed name.toList :=
  Text.isTrimmed_of_forall fun c hc => Path.isBlank_of_isKeyChar (h.2 c hc)

/-- A plain name is not empty. -/
theorem IsPlainName.toList_ne_nil (h : IsPlainName name) : name.toList ≠ [] := by
  simpa using h.1

namespace Path

/-- Characters of keys, at least one, are a plain name. -/
theorem isPlainName_ofList {cs : List Char} (hn : cs ≠ []) (h : cs.all isKeyChar = true) :
    IsPlainName (String.ofList cs) := by
  constructor
  · intro he
    exact hn (by simpa using congrArg String.toList he)
  · rw [String.toList_ofList]
    exact List.all_eq_true.1 h

/-- A name has no bracket, so all of it is the key of its segment. -/
theorem takeWhile_name (h : IsPlainName name) :
    name.toList.takeWhile (· != '[') = name.toList ∧ name.toList.dropWhile (· != '[') = [] := by
  have hb : ∀ c ∈ name.toList, (c != '[') = true := by
    intro c hc
    have hne : c ≠ '[' := fun he => h.notMem (c := '[') (by decide) (he ▸ hc)
    simpa using hne
  constructor
  · exact List.takeWhile_eq_self_iff.2 hb
  · exact List.dropWhile_eq_nil_iff.2 hb

/-! ## The step of a name behind a dot -/

/-- The step that a name makes behind a dot, if it makes one. -/
def dotted? (name : String) : Option Step := (keyStep false name.toList).toOption

/-- A text of digits alone. -/
def IsDigits (name : String) : Prop := ∀ c ∈ name.toList, c.isDigit = true

/-- A name that is not of digits alone is a key behind a dot. -/
theorem dotted?_word (h : IsPlainName name) (hd : ¬IsDigits name) :
    dotted? name = some (.key name) := by
  have hk : name.toList.all isKeyChar = true := List.all_eq_true.2 h.2
  have hn : name.toList.all Char.isDigit = false := by
    rw [← Bool.not_eq_true, List.all_eq_true]
    exact hd
  rw [dotted?, keyStep, hk, hn, String.ofList_toList]
  rfl

/-- The digits of a number stand for it. -/
theorem decimalValue_toDigits (n : Nat) : decimalValue (Nat.toDigits 10 n) = n := by
  have h : decimalValue (Nat.toDigits 10 n) = Nat.ofDigitChars 10 (Nat.toDigits 10 n) 0 :=
    Nat.ofDigitChars_eq_foldl.symm
  rw [h, Nat.ofDigitChars_toDigits (by decide) (by decide)]

/-- A numeral is made of the digits of its number. -/
theorem toList_toString (n : Nat) : (toString n).toList = Nat.toDigits 10 n := by
  rw [Nat.toString_eq_ofList_toDigits, String.toList_ofList]

/-- A numeral is of digits alone. -/
theorem isDigits_toString (n : Nat) : IsDigits (toString n) := by
  intro c hc
  rw [toList_toString] at hc
  exact Nat.isDigit_of_mem_toDigits (by decide) (by decide) hc

/-- A numeral behind a dot is the index that it writes. -/
theorem dotted?_numeral {n : Nat} (h : n < indexBound) : dotted? (toString n) = some (.index n) := by
  have hd : (Nat.toDigits 10 n).all Char.isDigit = true := by
    rw [← toList_toString]
    exact List.all_eq_true.2 (isDigits_toString n)
  have hk : (Nat.toDigits 10 n).all isKeyChar = true :=
    List.all_eq_true.2 fun c hc => isKeyChar_of_isDigit (List.all_eq_true.1 hd c hc)
  have hi : indexOfDigits? (Nat.toDigits 10 n) = some n := by
    rw [indexOfDigits?, decimalValue_toDigits, if_pos ⟨Nat.toDigits_ne_nil, hd, h⟩]
  rw [dotted?, toList_toString, keyStep, hk, hd, hi]
  rfl

/-! ## Reading a path behind a name -/

/-- A segment that starts with a key is the step of the key and the steps of the subscripts. -/
theorem segment_of_key {p : String} {first : Bool} {cs : List Char}
    (hk : cs.takeWhile (· != '[') ≠ []) :
    segment p first cs = (keyStep first (cs.takeWhile (· != '['))).bind fun step =>
      (subscripts (String.ofList cs) (cs.dropWhile (· != '['))).map (step :: ·) := by
  have hne : ¬cs.isEmpty = true := by
    rintro he
    rw [List.isEmpty_iff.1 he] at hk
    exact hk rfl
  have hke : ¬(cs.takeWhile (· != '[')).isEmpty = true := by simpa using hk
  rw [segment, if_neg hne]
  simp only [if_neg hke]
  cases keyStep first (cs.takeWhile (· != '[')) with
  | error e => rfl
  | ok step => cases subscripts (String.ofList cs) (cs.dropWhile (· != '[')) <;> rfl

/-- The path that a segment stands in is only quoted in its errors. -/
theorem segment_quoted {p : String} (q : String) {cs : List Char} {steps : List Step}
    (h : segment p false cs = .ok steps) : segment q false cs = .ok steps := by
  by_cases hk : cs.takeWhile (· != '[') = []
  · by_cases hne : cs.isEmpty = true
    · simp [segment, hne] at h
    · simpa [segment, hne, hk] using h
  · rwa [segment_of_key hk] at h ⊢

/-- The stretches of a path are read alike in any text that an error would quote. -/
theorem segments_quoted {p : String} (q : String) {fs : List (List Char)} {path : Path}
    (h : segments p false fs = .ok path) : segments q false fs = .ok path := by
  induction fs generalizing path with
  | nil => exact h
  | cons f fs ih =>
    obtain ⟨steps, hs, h⟩ := Except.bind_eq_ok.1 h
    obtain ⟨more, hm, h⟩ := Except.bind_eq_ok.1 h
    exact Except.bind_eq_ok.2 ⟨steps, segment_quoted q hs, Except.bind_eq_ok.2 ⟨more, ih hm, h⟩⟩

/-- The segment that opens a path starts with a name. -/
theorem key_ne_nil_of_segment {p : String} {cs : List Char} {steps : List Step}
    (h : segment p true cs = .ok steps) : cs.takeWhile (· != '[') ≠ [] := by
  intro hk
  by_cases hne : cs.isEmpty = true
  · simp [segment, hne] at h
  · simp [segment, hne, hk] at h

/-- The segment that opens a path starts with a name, and behind a dot only the step of this name is
another. -/
theorem segment_first {p : String} (q : String) {cs : List Char} {steps : List Step}
    (h : segment p true cs = .ok steps) :
    ∃ name rest, steps = .key name :: rest ∧ IsPlainName name ∧
      (segment q false cs).toOption = (dotted? name).map (· :: rest) := by
  have hk := key_ne_nil_of_segment h
  rw [segment_of_key hk] at h
  obtain ⟨step, hstep, h⟩ := Except.bind_eq_ok.1 h
  obtain ⟨rest, hrest, rfl⟩ := Except.map_eq_ok.1 h
  unfold keyStep at hstep
  split at hstep
  · cases hstep
  · rename_i hall
    obtain rfl := Except.ok.inj hstep
    refine ⟨_, rest, rfl, isPlainName_ofList hk (by simpa using hall), ?_⟩
    rw [segment_of_key hk, hrest, dotted?, String.toList_ofList]
    cases keyStep false (cs.takeWhile (· != '[')) <;> rfl

/-- A name alone is read as a key. -/
theorem segment_name {p : String} {name : String} (h : IsPlainName name) :
    segment p true name.toList = .ok [.key name] := by
  obtain ⟨ht, hd⟩ := takeWhile_name h
  have hk : name.toList.all isKeyChar = true := List.all_eq_true.2 h.2
  have hs : keyStep true name.toList = .ok (.key name) := by
    rw [keyStep, hk, String.ofList_toList]
    rfl
  rw [segment_of_key (by rw [ht]; exact h.toList_ne_nil), ht, hd, hs, subscripts]
  rfl

/-- **A path is read behind a name as it is read by itself,** but for its first step: the name that
opens it becomes the step that it makes behind a dot. -/
theorem parse_behind {key scope : String} {path : Path} (hs : IsPlainName scope)
    (hk : parse key = .ok path) :
    ∃ name rest, path = .key name :: rest ∧ IsPlainName name ∧
      parse? (scope ++ "." ++ Text.trimString key) =
        (dotted? name).map fun step => .key scope :: step :: rest := by
  -- the text of the path, without the blanks around it
  unfold parse at hk
  generalize hcs : Text.trim key.toList = cs at hk
  have ht : Text.IsTrimmed cs := hcs ▸ Text.isTrimmed_trim _
  have hne : cs ≠ [] := by
    rintro rfl
    cases hk
  have hke : ¬cs.isEmpty = true := by simpa using hne
  simp only [if_neg hke] at hk
  -- behind the name nothing is trimmed, and the name is a segment of its own
  have hl : (scope ++ "." ++ Text.trimString key).toList = scope.toList ++ '.' :: cs := by
    simp [Text.trimString, hcs]
  have hb : Text.IsTrimmed (scope.toList ++ '.' :: cs) := by
    constructor
    · intro c hc
      rw [List.head?_append_of_ne_nil _ hs.toList_ne_nil] at hc
      exact hs.isTrimmed.first c hc
    · intro c hc
      rw [List.getLast?_append_of_ne_nil _ (List.cons_ne_nil _ _),
        List.getLast?_cons_of_ne_nil hne] at hc
      exact ht.last c hc
  have hf : Text.fields '.' (scope.toList ++ '.' :: cs) = scope.toList :: Text.fields '.' cs :=
    Text.fields_append (hs.notMem (by decide)) cs
  have hbe : ¬(scope.toList ++ '.' :: cs).isEmpty = true := by simp
  obtain ⟨f, fs, hfs⟩ := List.exists_cons_of_ne_nil (Text.fields_ne_nil '.' cs)
  rw [hfs] at hk hf
  obtain ⟨steps, hsteps, hk⟩ := Except.bind_eq_ok.1 hk
  obtain ⟨more, hmore, hk⟩ := Except.bind_eq_ok.1 hk
  obtain rfl := Except.ok.inj hk
  generalize hp : String.ofList (scope.toList ++ '.' :: cs) = p
  obtain ⟨name, rest, rfl, hname, hd⟩ := segment_first p hsteps
  refine ⟨name, rest ++ more, rfl, hname, ?_⟩
  rw [parse?, parse, hl, hb.trim_eq]
  simp only [if_neg hbe]
  rw [hf, hp, segments, segment_name hs, segments]
  cases hseg : segment p false f with
  | error e =>
    rw [hseg] at hd
    cases hdot : dotted? name with
    | none => rfl
    | some step =>
      rw [hdot] at hd
      cases hd
  | ok steps =>
    rw [hseg] at hd
    cases hdot : dotted? name with
    | none =>
      rw [hdot] at hd
      cases hd
    | some step =>
      rw [hdot] at hd
      obtain rfl := Option.some.inj hd
      have hq := segments_quoted p hmore
      simp only [bind, Except.bind, hq]
      rfl

/-- A name is read as itself. -/
theorem parse_name {name : String} (h : IsPlainName name) : parse name = .ok [.key name] := by
  have hne : ¬name.toList.isEmpty = true := by simpa using h.1
  have hf : Text.fields '.' name.toList = [name.toList] :=
    Text.fields_of_notMem (h.notMem (by decide))
  rw [parse, h.isTrimmed.trim_eq]
  simp only [if_neg hne]
  rw [hf, segments, segment_name h]
  rfl

/-- A name behind a name and a dot is a path of two steps. -/
theorem parse?_name_behind {scope name : String} (hs : IsPlainName scope) (hn : IsPlainName name) :
    parse? (scope ++ "." ++ name) = (dotted? name).map fun step => [.key scope, step] := by
  obtain ⟨_, _, hpath, -, hp⟩ := parse_behind hs (parse_name hn)
  obtain ⟨⟨⟩, rfl⟩ := List.cons.inj hpath
  have ht : Text.trimString name = name := by
    rw [Text.trimString, hn.isTrimmed.trim_eq, String.ofList_toList]
  rwa [ht] at hp

/-- The blanks around a path do not count. -/
theorem parse?_trimString (text : String) : parse? (Text.trimString text) = parse? text := by
  have ht : Text.trim (Text.trimString text).toList = Text.trim text.toList := by
    rw [Text.trimString, String.toList_ofList, (Text.isTrimmed_trim _).trim_eq]
  rw [parse?, parse?, parse, parse, ht]

/-! ## Following the step of a name -/

/-- A name that behind a dot still leads to the entry that it names: digits alone do so only as the
numeral of an index. -/
def IsDotted (name : String) : Prop := IsDigits name → ∃ n, n < indexBound ∧ name = toString n

/-- A numeral is not the name of a length. -/
theorem toString_ne_length (n : Nat) : toString n ≠ "length" := by
  intro h
  have hd : ('l').isDigit = true := isDigits_toString n 'l' (by rw [h]; decide)
  cases hd

/-- An index leads where its numeral leads, but for the items of an array. -/
theorem walk_index {v : Json} (hv : ∀ items, v ≠ .arr items) (n : Nat) (rest : Path) :
    walk v (.index n :: rest) = walk v (.key (toString n) :: rest) := by
  have hl : ¬(rest.isEmpty = true ∧ toString n = "length") := fun h => toString_ne_length n h.2
  cases v with
  | arr items => exact absurd rfl (hv items)
  | obj es =>
    simp only [walk, item?, Json.field?]
    cases Entries.get? (toString n) es with
    | none => rw [if_neg hl]
    | some w => rfl
  | null | bool | int | float | str =>
    simp only [walk, item?, Json.field?]
    rw [if_neg hl]

/-- The step of a dotted name leads where the name leads, but for the items of an array. -/
theorem walk_dotted {name : String} (hn : IsPlainName name) (hd : IsDotted name) :
    ∃ step, dotted? name = some step ∧ ∀ v rest, (∀ items, v ≠ .arr items) →
      walk v (step :: rest) = walk v (.key name :: rest) := by
  by_cases hw : IsDigits name
  · obtain ⟨n, hlt, rfl⟩ := hd hw
    exact ⟨.index n, dotted?_numeral hlt, fun v rest hv => walk_index hv n rest⟩
  · exact ⟨.key name, dotted?_word hn hw, fun _ _ _ => rfl⟩

/-- A name leads to its entry in an object, and `length` without an entry to the number of them. -/
theorem walk_name (name : String) (es : List (String × Json)) :
    walk (.obj es) [.key name] =
      (Entries.get? name es).or (if name = "length" then some (.int es.length) else none) := by
  simp only [walk, Json.field?]
  cases Entries.get? name es with
  | some v => rfl
  | none => simp [length?]

end Path
end AgentTool
