import AgentTool.Proofs.Acceptance
import AgentTool.Proofs.MarkerReadings
import AgentTool.Proofs.ScopeLaws

/-!
# References to parameters

The name of a parameter is checked as a name, but `args.name` is read as a path, and there digits
and `length` have a meaning of their own.  With the default `d`, the reference to a parameter whose
name is dotted shows:

| argument | shown |
| --- | --- |
| a value other than null | the text of the value |
| null | `d` |
| none | `d`, but for `length` the number of arguments |

Digits that are the numeral of no index do not name a parameter behind a dot: leading zeros are
dropped, and a number out of range makes the reference no path at all.
-/

namespace AgentTool

variable {name : String} {raw text : List Char}

/-- A number is displayed as its numeral. -/
theorem Json.display?_natural (n : Nat) : (Json.int n).display? = some (toString n) := by
  have ht : intText n = Nat.toDigits 10 n := if_neg (by omega)
  have hc : (Json.int n).compact = String.ofList (Nat.toDigits 10 n) := by
    rw [compact, tokens, List.flatMap_singleton, Token.text, ht]
  rw [Nat.toString_eq_ofList_toDigits, ← hc]
  rfl

/-- The name of the arguments is plain. -/
theorem isPlainName_args : IsPlainName Scopes.argsName := Check.isPlainName_iff.1 (by decide)

/-- The name of a checked parameter is plain. -/
theorem Check.isPlainName_of_parameters {tool : String} {ps : Parameters}
    (h : Check.parameters tool ps = .ok ()) (hn : name ∈ Entries.keys ps.properties) :
    IsPlainName name := by
  obtain ⟨e, he, rfl⟩ := List.mem_map.1 hn
  exact (Check.parameters_eq_ok.1 h).names e he

/-- The reference to an argument is a path, which leads to the argument of this name. -/
theorem Path.parse?_argument (hn : IsPlainName name) (hd : Path.IsDotted name) :
    ∃ path, Path.parse? ("args." ++ name) = some path ∧
      ∀ (scopes : Scopes) (args : List (String × Json)),
        scopes.get? Scopes.argsName = some (.obj args) →
          scopes.resolve? path = (Entries.get? name args).or
            (if name = "length" then some (.int args.length) else none) := by
  obtain ⟨step, hstep, hwalk⟩ := Path.walk_dotted hn hd
  refine ⟨[.key Scopes.argsName, step], ?_, fun scopes args hs => ?_⟩
  · rw [show "args." = Scopes.argsName ++ "." from rfl, Path.parse?_name_behind isPlainName_args hn,
      hstep, Option.map_some]
  · rw [Scopes.resolve?, hs, Option.bind_some, hwalk (.obj args) [] nofun, Path.walk_name]

/-- What stands in the path of a reference to an argument. -/
theorem mem_argument {c : Char} (hn : IsPlainName name) (hc : c ∈ ("args." ++ name).toList) :
    c = '.' ∨ Path.isKeyChar c = true := by
  rw [String.toList_append, List.mem_append] at hc
  rcases hc with hc | hc
  · have ha : ("args.".toList.all fun c => c == '.' || Path.isKeyChar c) = true := by decide
    simpa using List.all_eq_true.1 ha c hc
  · exact .inr (hn.2 c hc)

namespace Template

/-- The reference to an argument stands in a marker as it is. -/
theorem isBare_argument (hn : IsPlainName name) : IsBare ("args." ++ name) := by
  have hkey : ∀ d, Path.isKeyChar d = false → d ≠ '.' → d ∉ ("args." ++ name).toList := by
    intro d hd hdot hm
    rcases mem_argument hn hm with h | h
    · exact hdot h
    · rw [hd] at h
      cases h
  constructor
  · refine Text.isTrimmed_of_forall fun c hc => ?_
    rcases mem_argument hn hc with rfl | hk
    · decide
    · exact Path.isBlank_of_isKeyChar hk
  · intro c hc
    constructor
    · rintro rfl
      exact hkey _ (by decide) (by decide) hc
    · rintro rfl
      exact hkey _ (by decide) (by decide) hc
  · exact hkey _ (by decide) (by decide)
  · exact hkey _ (by decide) (by decide)

/-- The template of an argument. -/
def argument (name : String) : String := "$\x7bargs." ++ name ++ "\x7d"

/-- The template of an argument that is given expands to the text of the argument. -/
theorem expand_argument (hn : IsPlainName name) (hd : Path.IsDotted name) {scopes : Scopes}
    {args : List (String × Json)} (hs : scopes.get? Scopes.argsName = some (.obj args)) {v : Json}
    (hv : Entries.get? name args = some v) :
    expand (argument name) scopes = v.display?.getD "" := by
  obtain ⟨path, hpath, hresolve⟩ := Path.parse?_argument hn hd
  have hm : (argument name).toList = '$' :: '{' :: (("args." ++ name).toList ++ ['}']) := by
    simp [argument]
  rw [expand_bare hm hpath (isBare_argument hn), Scopes.display?, hresolve scopes args hs, hv,
    Option.some_or, Option.bind_some]

/-- The template of an argument with a default, which is written `raw` between its quotes. -/
def argumentOr (name : String) (raw : List Char) : String :=
  "$\x7bargs." ++ name ++ " || \"" ++ String.ofList raw ++ "\"\x7d"

/-- **The reference to a parameter shows its argument.**  An argument other than null is shown as
its text; null and an absent argument as the default, except that the name `length`, without an
argument of this name, shows how many arguments there are. -/
theorem expand_argumentOr {tool : String} {ps : Parameters}
    (hps : Check.parameters tool ps = .ok ()) (hn : name ∈ Entries.keys ps.properties)
    (hd : Path.IsDotted name) (hl : IsLiteral '"' raw text) (scopes : Scopes)
    (args : List (String × Json)) (hs : scopes.get? Scopes.argsName = some (.obj args)) :
    (∀ v, Entries.get? name args = some v → v ≠ .null →
      v.display? = some (expand (argumentOr name raw) scopes)) ∧
    (Entries.get? name args = some .null →
      expand (argumentOr name raw) scopes = String.ofList text) ∧
    (Entries.get? name args = none → expand (argumentOr name raw) scopes =
      if name = "length" then toString args.length else String.ofList text) := by
  have hplain : IsPlainName name := Check.isPlainName_of_parameters hps hn
  obtain ⟨path, hpath, hresolve⟩ := Path.parse?_argument hplain hd
  have hm : (argumentOr name raw).toList =
      '$' :: '{' :: (quotedBody ("args." ++ name).toList '"' raw ++ ['}']) := by
    simp [argumentOr, quotedBody]
  have he : expand (argumentOr name raw) scopes =
      (((Entries.get? name args).or
        (if name = "length" then some (.int args.length) else none)).bind Json.display?).getD
          (String.ofList text) := by
    rw [expand_quoted hm hpath (isBare_argument hplain) hl (.inl rfl), Scopes.display?,
      hresolve scopes args hs]
  refine ⟨fun v hv hne => ?_, fun hv => ?_, fun hv => ?_⟩
  · obtain ⟨shown, hshown⟩ := Option.ne_none_iff_exists'.1 fun h => hne (Json.display?_eq_none.1 h)
    rw [he, hv, Option.some_or, Option.bind_some, hshown, Option.getD_some]
  · rw [he, hv]
    rfl
  · rw [he, hv, Option.none_or]
    split
    · rw [Option.bind_some, Json.display?_natural, Option.getD_some]
    · rfl

/-- A numeral names its argument, and a default holds quotes and braces. -/
theorem expand_argumentOr_numeral :
    (Json.bool true).display? = some (expand (argumentOr "7" ['\\', '"', '}'])
        (.forInvocation (.obj [("7", .bool true)]) .null)) ∧
      expand (argumentOr "7" ['\\', '"', '}']) (.forInvocation (.obj [("q", .null)]) .null) =
        "\"\x7d" := by
  have hps : Check.parameters "t" { properties := [("7", { type := .boolean })] } = .ok () := by
    decide +kernel
  have hd : Path.IsDotted "7" := fun _ => ⟨7, by decide, by decide⟩
  have hl : IsLiteral '"' ['\\', '"', '}'] ['"', '}'] :=
    .escaped (.plain (by decide) (by decide) .nil)
  constructor
  · exact (expand_argumentOr hps List.mem_cons_self hd hl _ _ rfl).1 (.bool true) rfl nofun
  · exact (expand_argumentOr hps List.mem_cons_self hd hl _ _ rfl).2.2 rfl

/-- Where the reference shows another text than the argument or the default: at `length`, which
counts the arguments, and at digits that are the numeral of no index. -/
theorem expand_argumentOr_elsewhere :
    Check.parameters "t" { properties := [("length", { type := .string }),
        ("00", { type := .string }), ("18446744073709551616", { type := .string })] } = .ok () ∧
      expand (argumentOr "length" ['d']) (.forInvocation (.obj [("q", .str "x")]) .null) = "1" ∧
      expand (argumentOr "00" ['d']) (.forInvocation (.obj [("00", .str "x")]) .null) = "d" ∧
      expand (argumentOr "18446744073709551616" ['d'])
        (.forInvocation (.obj [("18446744073709551616", .str "x")]) .null) = "d" := by
  decide +kernel

end Template
end AgentTool
