import AgentTool.Proofs.PathReadings
import AgentTool.Proofs.TemplateText

/-!
# Reading one marker

A marker is cut twice: at the brace that closes it, and at the bars before its default.  Quotes
count in both cuts, but only the first of them knows the backslash.

| part | reads |
| --- | --- |
| body | as far as the scan stands outside quotes at a brace (`closeFrom_eq_some`) |
| path | as far as the bars, if no quote opens before them (`splitDefault_append`) |
| quoted default | as the text that its literal stands for (`unquote_eq_some`) |

So a path in which no quote opens stands for itself, alone (`parseMarker_bare`) or with the text of
a literal behind the bars as its default (`parseMarker_quoted`), and a template of such a marker
expands to the value of the path, or else to nothing or to that text (`expand_bare`,
`expand_quoted`).
-/

namespace AgentTool

namespace Template

/-! ## The brace that closes a marker -/

/-- The scan of a body gets from one position to another: no brace closes the marker on the way. -/
inductive Passes : Quoting → List Char → Quoting → Prop where
  | nil {q : Quoting} : Passes q [] q
  | cons {q r : Quoting} {c : Char} {cs : List Char} : ¬(q = .outside ∧ c = '}') →
      Passes (q.next c) cs r → Passes q (c :: cs) r

/-- A scan passes two texts one after the other. -/
theorem Passes.append {q r s : Quoting} {cs ds : List Char} (h : Passes q cs r)
    (h' : Passes r ds s) : Passes q (cs ++ ds) s := by
  induction h with
  | nil => exact h'
  | cons hc _ ih => exact .cons hc (ih h')

/-- **A marker ends at the first brace at which its scan stands outside quotes.** -/
theorem closeFrom_eq_some {q : Quoting} {cs body rest : List Char} :
    closeFrom q cs = some (body, rest) ↔ cs = body ++ '}' :: rest ∧ Passes q body .outside := by
  -- along the text, from any position of the scan: the body is empty exactly where a brace closes it
  induction cs generalizing q body with
  | nil => simp [closeFrom]
  | cons c cs ih =>
    by_cases hc : q = .outside ∧ c = '}'
    · rw [closeFrom, if_pos hc]
      obtain ⟨rfl, rfl⟩ := hc
      constructor
      · rintro ⟨⟩
        exact ⟨rfl, .nil⟩
      · rintro ⟨hcs, hp⟩
        cases hp with
        | nil => rw [(List.cons.inj hcs).2]
        | cons hd _ => exact absurd ⟨rfl, (List.cons.inj hcs).1.symm⟩ hd
    · rw [closeFrom, if_neg hc, Option.map_eq_some_iff]
      constructor
      · rintro ⟨⟨b, r⟩, hb, ⟨⟩⟩
        obtain ⟨rfl, hp⟩ := ih.1 hb
        exact ⟨rfl, .cons hc hp⟩
      · rintro ⟨hcs, hp⟩
        cases hp with
        | nil => exact absurd ⟨rfl, (List.cons.inj hcs).1⟩ hc
        | cons _ hp =>
          obtain ⟨rfl, rfl⟩ := List.cons.inj hcs
          exact ⟨_, ih.2 ⟨rfl, hp⟩, rfl⟩

/-- A text without quotes and closing braces stays outside quotes. -/
theorem passes_outside {cs : List Char} (h : ∀ c ∈ cs, c ≠ '"' ∧ c ≠ '\'' ∧ c ≠ '}') :
    Passes .outside cs .outside := by
  induction cs with
  | nil => exact .nil
  | cons c cs ih =>
    obtain ⟨⟨hd, hs, hb⟩, hcs⟩ := List.forall_mem_cons.1 h
    have hn : Quoting.next .outside c = .outside := if_neg (not_or.2 ⟨hd, hs⟩)
    refine .cons (fun hc => hb hc.2) ?_
    rw [hn]
    exact ih hcs

/-- Text in which no marker opens is one token, or none if there is no text. -/
theorem scanFrom_text {offset : Nat} {cs text : List Char} (hb : breakMarker cs = (text, none)) :
    scanFrom offset cs = textToken text := by
  unfold scanFrom
  split
  · rename_i t ht
    rw [(Prod.mk.inj (ht.symm.trans hb)).1]
  · rename_i t inner ht
    cases ht.symm.trans hb

/-- The text before a marker, the marker, and the tokens behind it. -/
theorem scanFrom_marker {offset : Nat} {cs text inner body rest : List Char}
    (hb : breakMarker cs = (text, some inner))
    (hc : closeFrom .outside inner = some (body, rest)) :
    scanFrom offset cs = textToken text ++ .marker body (offset + Text.utf8Size text) ::
      scanFrom (offset + Text.utf8Size text + 3 + Text.utf8Size body) rest := by
  rw [scanFrom]
  split
  · rename_i t ht
    cases ht.symm.trans hb
  · rename_i t i ht
    obtain ⟨rfl, hi⟩ := Prod.mk.inj (ht.symm.trans hb)
    obtain rfl := Option.some.inj hi
    split
    · rename_i hn
      cases hn.symm.trans hc
    · rename_i b r hs
      obtain ⟨rfl, rfl⟩ := Prod.mk.inj (Option.some.inj (hs.symm.trans hc))
      rfl

/-- A template of one marker has this one token. -/
theorem scan_marker {template : String} {body : List Char}
    (ht : template.toList = '$' :: '{' :: (body ++ ['}'])) (h : Passes .outside body .outside) :
    scan template = [.marker body 0] := by
  have hb : breakMarker ('$' :: '{' :: (body ++ ['}'])) = ([], some (body ++ ['}'])) := by
    rw [breakMarker]
  have hc : closeFrom .outside (body ++ ['}']) = some (body, []) := closeFrom_eq_some.2 ⟨rfl, h⟩
  have he : breakMarker [] = ([], none) := by rw [breakMarker]
  rw [scan, ht, scanFrom_marker hb hc, scanFrom_text he]
  rfl

/-- A template of one marker expands to the text of this marker. -/
theorem expand_marker {template : String} {body : List Char}
    (ht : template.toList = '$' :: '{' :: (body ++ ['}'])) (h : Passes .outside body .outside)
    (scopes : Scopes) : expand template scopes = (markerText scopes body).getD "" := by
  rw [expand, scan_marker ht h]
  simp [tokenText, String.join]

/-! ## Literals between quotes -/

/-- The characters between two quotes stand for a text: a backslash takes the next character as it
is, and any other character but the quote stands for itself. -/
inductive IsLiteral (quote : Char) : List Char → List Char → Prop where
  | nil : IsLiteral quote [] []
  | plain {c : Char} {raw text : List Char} : c ≠ '\\' → c ≠ quote → IsLiteral quote raw text →
      IsLiteral quote (c :: raw) (c :: text)
  | escaped {c : Char} {raw text : List Char} : IsLiteral quote raw text →
      IsLiteral quote ('\\' :: c :: raw) (c :: text)

/-- **A quoted text is read up to its closing quote as the text that its literal stands for.** -/
theorem unquote_eq_some {quote : Char} (hq : quote ≠ '\\') {cs text rest : List Char} :
    unquote quote cs = some (text, rest) ↔
      ∃ raw, cs = raw ++ quote :: rest ∧ IsLiteral quote raw text := by
  constructor
  · intro h
    fun_induction unquote quote cs generalizing text with
    | case1 => cases h
    | case2 => cases h
    | case3 d ds ih =>
      obtain ⟨⟨t, r⟩, ht, ⟨⟩⟩ := Option.map_eq_some_iff.1 h
      obtain ⟨raw, rfl, hl⟩ := ih ht
      exact ⟨'\\' :: d :: raw, rfl, .escaped hl⟩
    | case4 cs hne =>
      obtain ⟨rfl, rfl⟩ := Prod.mk.inj (Option.some.inj h)
      exact ⟨[], rfl, .nil⟩
    | case5 c cs hc hne ih =>
      obtain ⟨⟨t, r⟩, ht, ⟨⟩⟩ := Option.map_eq_some_iff.1 h
      obtain ⟨raw, rfl, hl⟩ := ih ht
      exact ⟨c :: raw, rfl, .plain hc hne hl⟩
  · rintro ⟨raw, rfl, hl⟩
    induction hl with
    | nil => rw [List.nil_append, unquote.eq_def]; simp [hq]
    | plain hc hne _ ih => rw [List.cons_append, unquote.eq_def]; simp [hc, hne, ih]
    | escaped _ ih => rw [List.cons_append, List.cons_append, unquote.eq_def]; simp [ih]

/-- Between quotes the scan of a body stays inside them. -/
theorem IsLiteral.passes {quote : Char} {raw text : List Char} (h : IsLiteral quote raw text) :
    Passes (.inside quote) raw (.inside quote) := by
  induction h with
  | nil => exact .nil
  | @plain c _ _ hc hne _ ih =>
    have hn : Quoting.next (.inside quote) c = .inside quote := by
      rw [Quoting.next, if_neg hc, if_neg hne]
    refine .cons nofun ?_
    rwa [hn]
  | escaped _ ih => exact .cons nofun (.cons nofun ih)

/-- One of the two characters that open and close a literal. -/
def IsQuote (c : Char) : Prop := c = '"' ∨ c = '\''

instance : DecidablePred IsQuote := fun _ => inferInstanceAs (Decidable (_ ∨ _))

variable {quote : Char} {raw text : List Char}

/-- A quote is no backslash. -/
theorem IsQuote.ne_backslash (hq : IsQuote quote) : quote ≠ '\\' := by
  rintro rfl
  rcases hq with h | h <;> cases h

/-- A quote is no blank. -/
theorem IsQuote.isBlank (hq : IsQuote quote) : Text.isBlank quote = false := by
  rcases hq with rfl | rfl <;> decide

/-- A literal between quotes is passed as a whole. -/
theorem IsLiteral.passes_quoted (h : IsLiteral quote raw text) (hq : IsQuote quote) :
    Passes .outside (quote :: raw ++ [quote]) .outside := by
  have hopen : Quoting.next .outside quote = .inside quote := if_pos hq
  have hclose : Quoting.next (.inside quote) quote = .outside := by
    rw [Quoting.next, if_neg hq.ne_backslash, if_pos rfl]
  have hb : ¬(Quoting.outside = .outside ∧ quote = '}') := by
    rintro ⟨-, rfl⟩
    rcases hq with h | h <;> cases h
  rw [List.cons_append]
  refine .cons hb ?_
  rw [hopen]
  refine h.passes.append (.cons nofun ?_)
  rw [hclose]
  exact .nil

/-- A text between quotes has no blanks at its ends. -/
theorem IsQuote.isTrimmed (hq : IsQuote quote) (raw : List Char) :
    Text.IsTrimmed (quote :: raw ++ [quote]) := by
  constructor
  · intro c hc
    obtain rfl := Option.some.inj hc
    exact hq.isBlank
  · intro c hc
    rw [List.getLast?_append_of_ne_nil _ (List.cons_ne_nil _ _)] at hc
    obtain rfl := Option.some.inj hc
    exact hq.isBlank

/-- A quoted literal is the default that it stands for. -/
theorem parseDefault_quoted (h : IsLiteral quote raw text) (hq : IsQuote quote) :
    parseDefault (quote :: raw ++ [quote]) = .ok (String.ofList text) := by
  have hu : unquote quote (raw ++ [quote]) = some (text, []) :=
    (unquote_eq_some hq.ne_backslash).2 ⟨raw, rfl, h⟩
  rw [parseDefault, (hq.isTrimmed raw).trim_eq, List.cons_append]
  simp only [if_pos (show quote = '"' ∨ quote = '\'' from hq), hu]

/-- A blank in front of a default does not count. -/
theorem parseDefault_cons_blank (cs : List Char) : parseDefault (' ' :: cs) = parseDefault cs := by
  have ht : Text.trim ([' '] ++ cs ++ []) = Text.trim cs :=
    Text.trim_surrounded (List.forall_mem_singleton.2 (by decide)) (List.forall_mem_nil _) cs
  rw [List.append_nil, List.singleton_append] at ht
  rw [parseDefault, parseDefault, ht]

/-! ## Path and default together -/

/-- A text that stands in a marker as it is: no blanks at its ends are trimmed away, no quote opens
in it, and neither a bar nor a brace ends it. -/
structure IsBare (name : String) : Prop where
  trimmed : Text.IsTrimmed name.toList
  unquoted : ∀ c ∈ name.toList, c ≠ '"' ∧ c ≠ '\''
  unbarred : '|' ∉ name.toList
  unclosed : '}' ∉ name.toList

/-- A scan passes a bare name and stays outside quotes. -/
theorem IsBare.passes {name : String} (h : IsBare name) :
    Passes .outside name.toList .outside := by
  refine passes_outside fun c hc => ⟨(h.unquoted c hc).1, (h.unquoted c hc).2, ?_⟩
  rintro rfl
  exact h.unclosed hc

/-- A text in which no quote opens and no bar stands is passed on the way to the bars. -/
theorem splitDefault_append {left : List Char} (right : List Char)
    (hq : ∀ c ∈ left, c ≠ '"' ∧ c ≠ '\'') (hb : '|' ∉ left) :
    splitDefault none (left ++ right) =
      (left ++ (splitDefault none right).1, (splitDefault none right).2) := by
  induction left with
  | nil => rfl
  | cons c cs ih =>
    obtain ⟨⟨hd, hs⟩, hcs⟩ := List.forall_mem_cons.1 hq
    rw [List.mem_cons, not_or] at hb
    rw [List.cons_append, splitDefault]
    simp only [if_neg (not_or.2 ⟨hd, hs⟩), if_neg (fun hc : c = '|' ∧ _ => hb.1 hc.1.symm),
      ih hcs hb.2]
    rfl

/-- Without bars there is no default. -/
theorem splitDefault_bare {name : String} (h : IsBare name) :
    splitDefault none name.toList = (name.toList, none) := by
  have hs := splitDefault_append [] h.unquoted h.unbarred
  rwa [List.append_nil, splitDefault, List.append_nil] at hs

/-- A path alone makes up a reference without a default. -/
theorem parseMarker_bare {name : String} {path : Path} (hp : Path.parse? name = some path)
    (hb : IsBare name) : parseMarker name.toList = .ok ⟨name, path, none⟩ := by
  rw [parseMarker, splitDefault_bare hb]
  simp only [hb.trimmed.trim_eq, String.ofList_toList, hp]

/-- **A template of one marker without a default** expands to the value of its path, or to nothing.
-/
theorem expand_bare {template name : String} {path : Path}
    (hm : template.toList = '$' :: '{' :: (name.toList ++ ['}']))
    (hp : Path.parse? name = some path) (hb : IsBare name) (scopes : Scopes) :
    expand template scopes = (scopes.display? path).getD "" := by
  rw [expand_marker hm hb.passes, markerText_eq (parseMarker_bare hp hb), Reference.value?,
    Option.or_none]

/-- The body of a marker with a quoted default. -/
def quotedBody (path : List Char) (quote : Char) (raw : List Char) : List Char :=
  path ++ ' ' :: '|' :: '|' :: ' ' :: (quote :: raw ++ [quote])

/-- **A path, bars and a default make up a reference.**  The blanks around the path do not count. -/
theorem parseMarker_default {name value : String} {path : Path} {cs : List Char}
    (hp : Path.parse? name = some path) (hq : ∀ c ∈ name.toList, c ≠ '"' ∧ c ≠ '\'')
    (hb : '|' ∉ name.toList) (hd : parseDefault cs = .ok value) :
    parseMarker (name.toList ++ ' ' :: '|' :: '|' :: ' ' :: cs) =
      .ok ⟨Text.trimString name, path, some value⟩ := by
  have hs : splitDefault none (name.toList ++ ' ' :: '|' :: '|' :: ' ' :: cs) =
      (name.toList ++ [' '], some (' ' :: cs)) := by
    rw [splitDefault_append _ hq hb]
    simp [splitDefault, extendCut]
  have hl : String.ofList (Text.trim (name.toList ++ [' '])) = Text.trimString name := by
    have ht : Text.trim ([] ++ name.toList ++ [' ']) = Text.trim name.toList :=
      Text.trim_surrounded (List.forall_mem_nil _) (List.forall_mem_singleton.2 (by decide)) _
    rw [List.nil_append] at ht
    rw [ht, Text.trimString]
  rw [parseMarker, hs]
  simp only [hl, Path.parse?_trimString, hp, parseDefault_cons_blank, hd]

/-- A path, bars and a quoted literal make up a reference. -/
theorem parseMarker_quoted {name : String} {path : Path} (hp : Path.parse? name = some path)
    (hb : IsBare name) (h : IsLiteral quote raw text) (hq : IsQuote quote) :
    parseMarker (quotedBody name.toList quote raw) = .ok ⟨name, path, some (String.ofList text)⟩ := by
  have ht : Text.trimString name = name := by
    rw [Text.trimString, hb.trimmed.trim_eq, String.ofList_toList]
  have hm := parseMarker_default hp hb.unquoted hb.unbarred (parseDefault_quoted h hq)
  rwa [ht] at hm

/-- **A template of one marker with a quoted default** expands to the value of its path, or else to
the text of the default. -/
theorem expand_quoted {template name : String} {path : Path}
    (hm : template.toList = '$' :: '{' :: (quotedBody name.toList quote raw ++ ['}']))
    (hp : Path.parse? name = some path) (hb : IsBare name) (h : IsLiteral quote raw text)
    (hq : IsQuote quote) (scopes : Scopes) :
    expand template scopes = (scopes.display? path).getD (String.ofList text) := by
  have hpass : Passes .outside (quotedBody name.toList quote raw) .outside := by
    have hbars : Passes .outside [' ', '|', '|', ' '] .outside := by
      refine passes_outside fun c hc => ?_
      simp only [List.mem_cons, List.not_mem_nil, or_false] at hc
      rcases hc with rfl | rfl | rfl | rfl <;> decide
    exact hb.passes.append (hbars.append (h.passes_quoted hq))
  rw [expand_marker hm hpass, markerText_eq (parseMarker_quoted hp hb h hq), Reference.value?]
  cases scopes.display? path <;> rfl

end Template
end AgentTool
