import AgentTool.Proofs.PathGrammar

/-!
# Printing paths

A path is printed as its steps one after the other: a key behind a dot, an index behind a dot or
between brackets, and no dot in front of the name that opens the path.

The paths that can be printed (`IsPrintable`) are those that some text is read as
(`isPrintable_iff`), and whatever style is chosen for each of their indices, what is printed is read
as the path again (`parse_print`).
-/

namespace AgentTool
namespace Path

/-- How an index is printed. -/
inductive IndexStyle where
  | dotted
  | bracketed
  deriving DecidableEq, Repr

/-- The text of a step; keys are printed in one style only. -/
def Step.print : IndexStyle → Step → List Char
  | _, .key name => '.' :: name.toList
  | .dotted, .index n => '.' :: (toString n).toList
  | .bracketed, .index n => '[' :: ((toString n).toList ++ [']'])

/-- The text of a path, whose step at position `i` is printed in the style `style i`; the dot in
front of the first step is left out. -/
def print (style : Nat → IndexStyle) (path : Path) : String :=
  String.ofList ((path.zipIdx.flatMap fun p => p.1.print (style p.2)).drop 1)

/-- A step that can stand behind a name: a key that is not of digits alone, or an index in range. -/
inductive Step.IsPrintable : Step → Prop where
  | key {name : String} : IsPlainName name → ¬IsDigits name → IsPrintable (.key name)
  | index {n : Nat} : n < indexBound → IsPrintable (.index n)

/-- A path that opens with a name, and whose other steps can stand behind it. -/
inductive IsPrintable : Path → Prop where
  | path {name : String} {rest : List Step} : IsPlainName name → (∀ s ∈ rest, s.IsPrintable) →
      IsPrintable (.key name :: rest)

/-! ## What is printed follows the grammar -/

/-- The numeral of an index stands for it. -/
theorem isNumeral_toString {n : Nat} (h : n < indexBound) : IsNumeral (toString n).toList n where
  nonempty := by
    rw [toList_toString]
    exact Nat.toDigits_ne_nil
  digits := isDigits_toString n
  value := by rw [toList_toString, decimalValue_toDigits]
  inRange := h

/-- A step is printed as one that is written in the grammar. -/
theorem Step.IsPrintable.written {s : Step} (h : s.IsPrintable) (style : IndexStyle) :
    s.Written IsNumeral (s.print style) := by
  cases h with
  | key hn hd => exact .dotted (.key hn hd)
  | index hlt =>
    cases style with
    | dotted => exact .dotted (.index (isNumeral_toString hlt))
    | bracketed => exact .bracketed (.index (isNumeral_toString hlt))

/-- Steps are printed as one piece each, whatever their positions. -/
theorem forall₂_print (style : Nat → IndexStyle) {steps : List Step}
    (h : ∀ s ∈ steps, s.IsPrintable) (start : Nat) :
    List.Forall₂ (Step.Written IsNumeral) steps
      ((steps.zipIdx start).map fun p => p.1.print (style p.2)) := by
  induction steps generalizing start with
  | nil => exact .nil
  | cons s steps ih =>
    obtain ⟨hs, hsteps⟩ := List.forall_mem_cons.1 h
    rw [List.zipIdx_cons, List.map_cons]
    exact .cons (hs.written (style start)) (ih hsteps (start + 1))

/-- The first step is printed as its name alone. -/
theorem toList_print (style : Nat → IndexStyle) (name : String) (rest : List Step) :
    (print style (.key name :: rest)).toList =
      name.toList ++ ((rest.zipIdx 1).map fun p => p.1.print (style p.2)).flatten := by
  rw [print, String.toList_ofList, List.zipIdx_cons, List.flatMap_cons, List.flatMap_def]
  rfl

/-- **A path is spelled by its text.** -/
theorem IsPrintable.spells {path : Path} (h : IsPrintable path) (style : Nat → IndexStyle) :
    Spells (Step.Written IsNumeral) path (print style path).toList := by
  obtain ⟨hname, hrest⟩ := h
  rw [toList_print]
  exact .path hname (forall₂_print style hrest 1)

/-! ## Reading what is printed -/

/-- A numeral needs no blanks around it. -/
theorem padded_of_isNumeral {ds : List Char} {n : Nat} (h : IsNumeral ds n) :
    Padded IsNumeral ds n := by
  have hp : Padded IsNumeral ([] ++ ds ++ []) n := .pad nofun nofun h
  rwa [List.nil_append, List.append_nil] at hp

/-- A path is read from its text, with blanks around it or not. -/
theorem IsPrintable.reads_back {path : Path} (h : IsPrintable path) (style : Nat → IndexStyle)
    (before after : String) (hb : Text.isBlankString before = true)
    (ha : Text.isBlankString after = true) :
    parse (before ++ print style path ++ after) = .ok path := by
  have hs := h.spells style
  have ht : Text.trim (before ++ print style path ++ after).toList = (print style path).toList := by
    rw [String.toList_append, String.toList_append]
    exact (Text.isTrimmed_of_forall hs.isBlank_eq_false).trim_surrounded (List.all_eq_true.1 hb)
      (List.all_eq_true.1 ha)
  rw [parse_eq_ok, ht]
  exact hs.imp fun s cs hw => Step.read_iff.2 (.inl (hw.mono fun _ _ => padded_of_isNumeral))

/-- A step that is read between brackets can be printed. -/
theorem Step.Subscripted.isPrintable {s : Step} {cs : List Char} (h : s.Subscripted cs) :
    s.IsPrintable := by
  obtain ⟨hn⟩ := h
  rcases subscript?_eq_some.1 hn with hp | hp
  · obtain ⟨-, -, hn⟩ := hp
    exact .index hn.inRange
  · obtain ⟨-, -, hs⟩ := hp
    obtain ⟨hn⟩ := hs
    exact .index hn.inRange

/-- A step that is read can be printed. -/
theorem Step.Read.isPrintable {s : Step} {cs : List Char} (h : s.Read cs) : s.IsPrintable := by
  cases h with
  | dotted h =>
    cases h with
    | key hn hd => exact .key hn hd
    | index hn => exact .index hn.inRange
  | bracketed h => exact h.isPrintable
  | behindDot h => exact h.isPrintable

/-- A path that is read can be printed. -/
theorem Spells.isPrintable {path : Path} {cs : List Char} (h : Spells Step.Read path cs) :
    IsPrintable path := by
  obtain ⟨hname, hp⟩ := h
  refine .path hname ?_
  induction hp with
  | nil => nofun
  | cons hs _ ih => exact List.forall_mem_cons.2 ⟨hs.isPrintable, ih⟩

/-- **The paths that can be printed are those that are read.** -/
theorem isPrintable_iff {path : Path} : IsPrintable path ↔ ∃ text, parse text = .ok path := by
  constructor
  · exact fun h => ⟨_, h.reads_back (fun _ => .dotted) "" "" rfl rfl⟩
  · exact fun ⟨_, h⟩ => (parse_eq_ok.1 h).isPrintable

/-- **Printing and reading are inverse.**  In any style of its indices, and with blanks around it or
not, the text of a path that can be printed is read as this path; and so is, in any style, the text
of a path that was read. -/
theorem parse_print (path : Path) (style : Nat → IndexStyle) :
    (IsPrintable path → ∀ before after : String, Text.isBlankString before = true →
      Text.isBlankString after = true → parse (before ++ print style path ++ after) = .ok path) ∧
    (∀ text, parse text = .ok path → parse (print style path) = .ok path) := by
  constructor
  · exact fun h before after hb ha => h.reads_back style before after hb ha
  · intro text h
    have hp : parse ("" ++ print style path ++ "") = .ok path :=
      (isPrintable_iff.2 ⟨text, h⟩).reads_back style "" "" rfl rfl
    rwa [String.empty_append, String.append_empty] at hp

/-- A name of digits, a key, and the least and the largest index, in either style. -/
theorem parse_print_largest :
    parse "\t7.a-1.0[18446744073709551615] " =
        .ok [.key "7", .key "a-1", .index 0, .index 18446744073709551615] ∧
      parse "7.a-1[0].18446744073709551615" =
        .ok [.key "7", .key "a-1", .index 0, .index 18446744073709551615] := by
  have hprintable : IsPrintable [.key "7", .key "a-1", .index 0, .index 18446744073709551615] := by
    refine .path ⟨by decide, List.all_eq_true.1 (by decide)⟩ ?_
    rintro s (_ | ⟨_, _ | ⟨_, _ | ⟨_, ⟨⟩⟩⟩⟩)
    · refine .key ⟨by decide, List.all_eq_true.1 (by decide)⟩ fun h => ?_
      exact absurd (h 'a' (by decide)) (by decide)
    · exact .index (by decide)
    · exact .index (by decide)
  have hdotted : "\t" ++ print (fun i => if i = 2 then .dotted else .bracketed)
      [.key "7", .key "a-1", .index 0, .index 18446744073709551615] ++ " " =
      "\t7.a-1.0[18446744073709551615] " := by
    decide +kernel
  have hbracketed : print (fun i => if i = 2 then .bracketed else .dotted)
      [.key "7", .key "a-1", .index 0, .index 18446744073709551615] =
      "7.a-1[0].18446744073709551615" := by
    decide +kernel
  have hread : parse "\t7.a-1.0[18446744073709551615] " =
      .ok [.key "7", .key "a-1", .index 0, .index 18446744073709551615] := by
    rw [← hdotted]
    exact (parse_print _ _).1 hprintable "\t" " " (by decide) (by decide)
  refine ⟨hread, ?_⟩
  rw [← hbracketed]
  exact (parse_print _ _).2 _ hread

end Path
end AgentTool
