import AgentTool.CommandLine.Arguments
import Mathlib.Logic.ExistsUnique

/-!
# The roles of words on a command line

Read from left to right, each word of a command line has one role, and the words alone decide which
(`exists_reads`, `Reads.unique`):

| role | words |
| --- | --- |
| flag | starts with two dashes and is no value |
| value | stands behind a flag, whatever it starts with |
| positional | any other word |

The words that count as positionals are those of this reading (`Reads.positionals_eq`).  The search
for the value of a flag does not ask for roles: it stops at the first word that equals the flag and
yields the word behind it (`flagValue?_eq_some_iff`).  So the two agree unless that first word is
itself a value (`Reads.readOneWay_iff`), like the second word of `--args --tool tools.json`; then
the word that the search yields is a flag or a positional of the reading
(`Reads.roles_of_soughtAt`).
-/

namespace AgentTool
namespace CommandLine

/-- What a word is for on a command line. -/
inductive Role
  | positional
  | flag
  | value
  deriving DecidableEq

/-- The reading of words from left to right: a flag goes with the word behind it. -/
inductive Reads : List String → List Role → Prop
  | nil : Reads [] []
  | positional {word words roles} (hw : isFlag word = false) (rest : Reads words roles) :
    Reads (word :: words) (.positional :: roles)
  | last {flag} (hf : isFlag flag = true) : Reads [flag] [.flag]
  | pair {flag value words roles} (hf : isFlag flag = true) (rest : Reads words roles) :
    Reads (flag :: value :: words) (.flag :: .value :: roles)

/-- The words that have a role, in order. -/
def wordsIn (role : Role) (words : List String) (roles : List Role) : List String :=
  ((words.zip roles).filter fun p => p.2 = role).map Prod.fst

variable {word flag v : String} {words : List String} {roles others : List Role} {i : Nat}

/-! ## Positionals -/

/-- A word that is no flag is a positional. -/
theorem positionals_cons (hw : isFlag word = false) (words : List String) :
    positionals (word :: words) = word :: positionals words := by
  cases words <;> simp [positionals, hw]

/-- A flag at the end is no positional. -/
theorem positionals_last (hf : isFlag flag = true) : positionals [flag] = [] := by
  simp [positionals, hf]

/-- A flag and the word behind it are no positionals. -/
theorem positionals_pair (hf : isFlag flag = true) (v : String) (words : List String) :
    positionals (flag :: v :: words) = positionals words := by
  simp [positionals, hf]

/-! ## The reading -/

/-- All words can be read. -/
theorem exists_reads (words : List String) : ∃ roles, Reads words roles := by
  -- `positionals` goes through the words as the reading does
  fun_induction positionals words with
  | case1 => exact ⟨_, .nil⟩
  | case2 word hf => exact ⟨_, .last hf⟩
  | case3 word hw => exact ⟨_, .positional (Bool.eq_false_iff.2 hw) .nil⟩
  | case4 word next rest hf ih =>
    obtain ⟨roles, h⟩ := ih
    exact ⟨_, .pair hf h⟩
  | case5 word next rest hw ih =>
    obtain ⟨roles, h⟩ := ih
    exact ⟨_, .positional (Bool.eq_false_iff.2 hw) h⟩

namespace Reads

/-- They can be read in one way only. -/
theorem unique (h : Reads words roles) (h' : Reads words others) : others = roles := by
  induction h generalizing others with
  | nil =>
    cases h'
    rfl
  | positional hw _ ih =>
    cases h' with
    | positional _ rest' => rw [ih rest']
    | last hf => exact absurd hf (Bool.eq_false_iff.1 hw)
    | pair hf _ => exact absurd hf (Bool.eq_false_iff.1 hw)
  | last hf =>
    cases h' with
    | positional hw _ => exact absurd hf (Bool.eq_false_iff.1 hw)
    | last _ => rfl
  | pair hf _ ih =>
    cases h' with
    | positional hw _ => exact absurd hf (Bool.eq_false_iff.1 hw)
    | pair _ rest' => rw [ih rest']

/-- A reading has one role for each word. -/
theorem length_eq (h : Reads words roles) : roles.length = words.length := by
  induction h with
  | nil => rfl
  | positional _ _ ih => exact congrArg (· + 1) ih
  | last _ => rfl
  | pair _ _ ih => exact congrArg (· + 2) ih

/-- **The positionals are those of the reading.** -/
theorem positionals_eq (h : Reads words roles) :
    positionals words = wordsIn .positional words roles := by
  induction h with
  | nil => rfl
  | positional hw _ ih =>
    rw [positionals_cons hw, ih]
    rfl
  | last hf => exact positionals_last hf
  | pair hf _ ih =>
    rw [positionals_pair hf, ih]
    rfl

/-- A word that is no value starts with two dashes exactly if it is a flag. -/
theorem isFlag_iff (h : Reads words roles) (hw : words[i]? = some word)
    (hv : roles[i]? ≠ some .value) : isFlag word = true ↔ roles[i]? = some .flag := by
  induction h generalizing i with
  | nil => simp at hw
  | positional hp _ ih =>
    cases i with
    | zero =>
      obtain rfl := Option.some.inj hw
      simp [hp]
    | succ i => exact ih hw hv
  | last hf =>
    cases i with
    | zero =>
      obtain rfl := Option.some.inj hw
      simp [hf]
    | succ i => simp at hw
  | pair hf _ ih =>
    match i with
    | 0 =>
      obtain rfl := Option.some.inj hw
      simp [hf]
    | 1 => simp at hv -- the word behind a flag is a value, even if it starts with dashes
    | i + 2 => exact ih hw hv

/-- A value stands behind a flag, and nothing else does. -/
theorem value_iff (h : Reads words roles) :
    roles[i + 1]? = some .value ↔ roles[i]? = some .flag ∧ i + 1 < words.length := by
  induction h generalizing i with
  | nil => simp
  | positional _ rest ih =>
    cases i with
    | zero => cases rest <;> simp
    | succ i => simpa using ih
  | last _ => simp
  | pair _ rest ih =>
    match i with
    | 0 => simp
    | 1 => cases rest <;> simp
    | i + 2 =>
      refine ih.trans (and_congr_right fun _ => ?_)
      simp only [List.length_cons]
      omega

/-- The first word is no value. -/
theorem head_ne_value (h : Reads words roles) : roles[0]? ≠ some .value := by
  cases h <;> simp

end Reads

/-! ## The search for a flag -/

/-- The search for the value of a flag stops at a place: the word there is the first that equals the
flag, and there is a word behind it, which is the value. -/
structure SoughtAt (flag : String) (words : List String) (i : Nat) : Prop where
  found : words[i]? = some flag
  first : flag ∉ words.take i
  followed : i + 1 < words.length

/-- The search stops at the first word exactly if it is the flag and a word follows. -/
theorem soughtAt_head_iff : SoughtAt flag (word :: words) 0 ↔ word = flag ∧ words ≠ [] := by
  constructor
  · rintro ⟨found, -, followed⟩
    exact ⟨Option.some.inj found, List.ne_nil_of_length_pos (by simpa using followed)⟩
  · rintro ⟨rfl, hne⟩
    exact ⟨rfl, List.not_mem_nil, Nat.succ_lt_succ (List.length_pos_iff.2 hne)⟩

/-- The search passes a word that is not the flag. -/
theorem soughtAt_tail_iff :
    SoughtAt flag (word :: words) (i + 1) ↔ word ≠ flag ∧ SoughtAt flag words i := by
  constructor
  · rintro ⟨found, first, followed⟩
    rw [List.take_succ_cons, List.mem_cons, not_or] at first
    exact ⟨Ne.symm first.1, found, first.2, Nat.lt_of_succ_lt_succ followed⟩
  · rintro ⟨hne, found, first, followed⟩
    refine ⟨found, ?_, Nat.succ_lt_succ followed⟩
    rw [List.take_succ_cons, List.mem_cons, not_or]
    exact ⟨Ne.symm hne, first⟩

/-- A flag that stands somewhere with words behind it is sought there or further in front. -/
theorem exists_soughtAt (hm : flag ∈ words.take i) (hi : i < words.length) :
    ∃ j < i, SoughtAt flag words j := by
  induction words generalizing i with
  | nil => simp at hi
  | cons word words ih =>
    cases i with
    | zero => simp at hm
    | succ i =>
      have hlt : i < words.length := Nat.lt_of_succ_lt_succ hi
      by_cases hw : word = flag
      · exact ⟨0, i.succ_pos, soughtAt_head_iff.2 ⟨hw, List.ne_nil_of_length_pos (by omega)⟩⟩
      · rw [List.take_succ_cons] at hm
        obtain ⟨j, hj, hs⟩ := ih (List.mem_of_ne_of_mem (Ne.symm hw) hm) hlt
        exact ⟨j + 1, Nat.succ_lt_succ hj, soughtAt_tail_iff.2 ⟨hw, hs⟩⟩

/-- **The value that is found stands behind the place at which the search stops.** -/
theorem flagValue?_eq_some_iff :
    flagValue? flag words = some v ↔ ∃ i, SoughtAt flag words i ∧ words[i + 1]? = some v := by
  induction words with
  | nil => simp [flagValue?]
  | cons word words ih =>
    rw [flagValue?]
    by_cases hw : word = flag
    · rw [if_pos (beq_iff_eq.2 hw), List.head?_eq_getElem?]
      constructor
      · intro hv
        have hne : words ≠ [] := by
          rintro rfl
          simp at hv
        exact ⟨0, soughtAt_head_iff.2 ⟨hw, hne⟩, hv⟩
      · rintro ⟨i, hs, hv⟩
        cases i with
        | zero => exact hv
        | succ i => exact absurd hw (soughtAt_tail_iff.1 hs).1
    · rw [if_neg (mt beq_iff_eq.1 hw), ih]
      constructor
      · rintro ⟨i, hs, hv⟩
        exact ⟨i + 1, soughtAt_tail_iff.2 ⟨hw, hs⟩, hv⟩
      · rintro ⟨i, hs, hv⟩
        cases i with
        | zero => exact absurd (soughtAt_head_iff.1 hs).1 hw
        | succ i => exact ⟨i, (soughtAt_tail_iff.1 hs).2, hv⟩

/-! ## The two compared -/

/-- A reading has a flag at a place for the first time, with a value behind it. -/
structure FlagAt (flag : String) (words : List String) (roles : List Role) (i : Nat) : Prop where
  found : words[i]? = some flag
  role : roles[i]? = some .flag
  first : ∀ j < i, words[j]? = some flag → roles[j]? ≠ some .flag
  followed : i + 1 < words.length

/-- The searches for flags keep to a reading: each of them stops where the reading has the flag
first, and the word that it yields is no positional, no flag of the reading and no flag to another
search. -/
structure ReadOneWay (words : List String) (roles : List Role) : Prop where
  agree : ∀ flag i, isFlag flag = true → (SoughtAt flag words i ↔ FlagAt flag words roles i)
  no_positional : ∀ flag i, isFlag flag = true → SoughtAt flag words i →
    roles[i + 1]? ≠ some .positional
  no_flag : ∀ flag i, isFlag flag = true → SoughtAt flag words i → roles[i + 1]? ≠ some .flag
  not_sought : ∀ flag other i, isFlag flag = true → isFlag other = true →
    SoughtAt flag words i → ¬SoughtAt other words (i + 1)

namespace Reads

/-- A word that starts with no dashes is a positional or the value of one flag. -/
theorem role_of_not_isFlag (h : Reads words roles) (hw : words[i]? = some word)
    (hf : isFlag word = false) :
    (roles[i]? = some .positional ∧ ∀ j, roles[j]? = some .flag → j + 1 ≠ i) ∨
      (roles[i]? = some .value ∧ ∃! j, roles[j]? = some .flag ∧ j + 1 = i) := by
  have hi : i < words.length := (List.getElem?_eq_some_iff.1 hw).1
  cases hr : roles[i]? with
  | none =>
    rw [List.getElem?_eq_none_iff, h.length_eq] at hr
    omega
  | some role =>
    cases role with
    | positional =>
      refine .inl ⟨rfl, ?_⟩
      rintro j hj rfl
      rw [h.value_iff.2 ⟨hj, hi⟩] at hr
      cases hr
    | flag =>
      have hv : roles[i]? ≠ some .value := by simp [hr]
      have hd := (h.isFlag_iff hw hv).2 hr
      simp [hf] at hd
    | value =>
      refine .inr ⟨rfl, ?_⟩
      cases i with
      | zero => exact absurd hr h.head_ne_value
      | succ i => exact ⟨i, ⟨(h.value_iff.1 hr).1, rfl⟩, fun j hj => Nat.succ.inj hj.2⟩

/-- **Where a search stops, there is a flag with its value, or a value with no value behind it.** -/
theorem roles_of_soughtAt (h : Reads words roles) (hf : isFlag flag = true)
    (hs : SoughtAt flag words i) :
    (roles[i]? = some .flag ∧ roles[i + 1]? = some .value) ∨
      (roles[i]? = some .value ∧ roles[i + 1]? ≠ some .value) := by
  by_cases hv : roles[i]? = some .value
  · refine .inr ⟨hv, fun hn => ?_⟩
    have hr := (h.value_iff.1 hn).1
    rw [hv] at hr
    cases hr
  · have hr := (h.isFlag_iff hs.found hv).1 hf
    exact .inl ⟨hr, h.value_iff.2 ⟨hr, hs.followed⟩⟩

/-- **The searches keep to the reading exactly if none of them stops at a value.** -/
theorem readOneWay_iff (h : Reads words roles) :
    ReadOneWay words roles ↔
      ∀ flag i, isFlag flag = true → SoughtAt flag words i → roles[i]? ≠ some .value := by
  constructor
  · intro hone flag i hf hs hv
    have hr := ((hone.agree flag i hf).1 hs).role
    rw [hv] at hr
    cases hr
  · intro hno
    have hpair : ∀ {flag i}, isFlag flag = true → SoughtAt flag words i →
        roles[i]? = some .flag ∧ roles[i + 1]? = some .value := fun hf hs =>
      (h.roles_of_soughtAt hf hs).resolve_right fun hv => hno _ _ hf hs hv.1
    refine ⟨fun flag i hf => ⟨fun hs => ?first, fun hr => ?sought⟩, ?positional, ?flag, ?other⟩
    case first =>
      refine ⟨hs.found, (hpair hf hs).1, fun j hj hw _ => hs.first ?_, hs.followed⟩
      exact List.mem_of_getElem? ((List.getElem?_take_of_lt hj).trans hw)
    case sought =>
      -- a search that stops further in front would stop at a flag of the reading, too
      refine ⟨hr.found, fun hm => ?_, hr.followed⟩
      obtain ⟨j, hj, hs⟩ := exists_soughtAt hm (Nat.lt_of_succ_lt hr.followed)
      exact hr.first j hj hs.found (hpair hf hs).1
    case positional =>
      intro flag i hf hs
      simp [(hpair hf hs).2]
    case flag =>
      intro flag i hf hs
      simp [(hpair hf hs).2]
    case other =>
      intro flag other i hf ho hs hs'
      exact hno other (i + 1) ho hs' (hpair hf hs).2

/-- It is enough that no value starts with dashes. -/
theorem readOneWay_of_values (h : Reads words roles)
    (hplain : ∀ (i : Nat) word, roles[i]? = some .value → words[i]? = some word →
      isFlag word = false) : ReadOneWay words roles := by
  refine h.readOneWay_iff.2 fun flag i hf hs hv => ?_
  have hp := hplain i flag hv hs.found
  rw [hf] at hp
  cases hp

end Reads

/-- **Each word has one role, and the searches for flags keep to it unless one stops at a value.**
Words can be read from left to right in exactly one way.  The positionals are those of this reading,
and every other word without dashes is the value of exactly one flag.  The search for a flag yields
the word behind the place at which it stops.  There the reading has the flag, and this word as its
value; or it has a value, and this word is none.  The searches keep to the reading exactly if the
second case does not occur, and it does not occur if no value starts with dashes. -/
theorem words_have_roles (words : List String) :
    ∃ roles, Reads words roles ∧ (∀ others, Reads words others → others = roles) ∧
      positionals words = wordsIn .positional words roles ∧
      (∀ (i : Nat) word, words[i]? = some word → isFlag word = false →
        (roles[i]? = some .positional ∧ ∀ j, roles[j]? = some .flag → j + 1 ≠ i) ∨
          (roles[i]? = some .value ∧ ∃! j, roles[j]? = some .flag ∧ j + 1 = i)) ∧
      (∀ flag v, flagValue? flag words = some v ↔
        ∃ i, SoughtAt flag words i ∧ words[i + 1]? = some v) ∧
      (∀ flag i, isFlag flag = true → SoughtAt flag words i →
        (roles[i]? = some .flag ∧ roles[i + 1]? = some .value) ∨
          (roles[i]? = some .value ∧ roles[i + 1]? ≠ some .value)) ∧
      (ReadOneWay words roles ↔
        ∀ flag i, isFlag flag = true → SoughtAt flag words i → roles[i]? ≠ some .value) ∧
      ((∀ (i : Nat) word, roles[i]? = some .value → words[i]? = some word → isFlag word = false) →
        ReadOneWay words roles) := by
  obtain ⟨roles, h⟩ := exists_reads words
  exact ⟨roles, h, fun _ h' => h.unique h', h.positionals_eq, fun _ _ => h.role_of_not_isFlag,
    fun _ _ => flagValue?_eq_some_iff, fun _ _ => h.roles_of_soughtAt, h.readOneWay_iff,
    h.readOneWay_of_values⟩

/-- A word that counts twice: as a positional, and as the value of a flag that is itself the value
of another flag. -/
theorem positional_behind_value :
    let words := ["--args", "--tool", "tools.json"]
    flagValue? "--args" words = some "--tool" ∧ flagValue? "--tool" words = some "tools.json" ∧
      positionals words = ["tools.json"] ∧ words.Nodup ∧
      ∀ roles, Reads words roles → ¬ReadOneWay words roles := by
  intro words
  have ha : isFlag "--args" = true := by decide
  have ht : isFlag "--tool" = true := by decide
  have hj : isFlag "tools.json" = false := by decide
  have hread : Reads words [.flag, .value, .positional] := .pair ha (.positional hj .nil)
  have hsought : SoughtAt "--tool" words 1 := ⟨rfl, by decide, by decide⟩
  refine ⟨by decide, by decide, by decide, by decide, fun roles h hone => ?_⟩
  obtain rfl := hread.unique h
  exact hread.readOneWay_iff.1 hone _ 1 ht hsought rfl

end CommandLine
end AgentTool
