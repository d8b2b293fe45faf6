import AgentTool.Proofs.PathGrammar
import AgentTool.Proofs.ScanLaws

/-!
# Writing defaults

A default is written behind the bars of a marker, between quotes or without them.

| default | written | read as |
| --- | --- | --- |
| any text | between quotes (`quoted`) | itself (`parse_quoted`) |
| text without `}` and `${`, no quote first | as it is | itself without outer blanks (`parse_bare`) |

Between quotes a backslash stands before each backslash and before each quote of that sort.
The second line holds only if every quote that opens within the text is closed in it
(`QuotesClose`): the scan for the closing brace takes a single apostrophe for an open quote,
although such a default is not a quoted one, and the marker never ends.

What stands around a marker is read as if it stood alone (`parse_around`, `expand_around`).
-/

namespace AgentTool
namespace Template

/-! ## A marker within a template -/

/-- An error that is found so many bytes later. -/
def Error.shift (n : Nat) : Error → Error
  | .unterminated offset => .unterminated (n + offset)
  | e => e

/-- Within a marker no offset is told: none of its errors is an unterminated marker. -/
theorem parseMarker_shift (n : Nat) (body : List Char) :
    (parseMarker body).mapError (Error.shift n) = parseMarker body := by
  unfold parseMarker
  generalize splitDefault none body = cut
  obtain ⟨left, default?⟩ := cut
  cases hpath : Path.parse? (String.ofList (Text.trim left)) with
  | none => simp [hpath, Except.mapError, Error.shift]
  | some path =>
    cases default? with
    | none => simp [hpath, Except.mapError]
    | some raw => cases hd : parseDefault raw <;> simp [hpath, hd, Except.mapError, Error.shift]

/-- A token is read alike wherever it stands, but for the place of an error. -/
theorem piece_shift (n : Nat) (t : Token) : piece (t.shift n) = (piece t).mapError (Error.shift n) := by
  cases t with
  | text cs => rfl
  | unterminated rest offset => rfl
  | marker body offset =>
    have hs := parseMarker_shift n body
    rw [Token.shift, piece, piece]
    cases hm : parseMarker body with
    | ok r => rfl
    | error e =>
      rw [hm] at hs
      exact congrArg Except.error (Except.error.inj hs).symm

/-- Tokens that stand later have the same pieces, or the same error, found later. -/
theorem mapM_piece_shift (n : Nat) (ts : List Token) :
    (ts.map (Token.shift n)).mapM piece = (ts.mapM piece).mapError (Error.shift n) := by
  induction ts with
  | nil => rfl
  | cons t ts ih =>
    rw [List.map_cons, List.mapM_cons, List.mapM_cons, ih, piece_shift]
    cases piece t with
    | error e => rfl
    | ok p => cases ts.mapM piece <;> rfl

/-- A token is expanded alike wherever it stands. -/
theorem tokenText_shift (scopes : Scopes) (n : Nat) (t : Token) :
    tokenText scopes (t.shift n) = tokenText scopes t := by
  cases t <;> rfl

/-- The piece of a text, unless the text is empty. -/
def literalPieces (text : String) : List Piece := if text = "" then [] else [.literal text]

/-- A text is one token, unless it is empty. -/
theorem textToken_toList (text : String) :
    textToken text.toList = if text = "" then [] else [.text text.toList] := by
  simp [textToken]

/-- The token of a text is read as the literal. -/
theorem mapM_piece_textToken (text : String) :
    (textToken text.toList).mapM piece = .ok (literalPieces text) := by
  rw [textToken_toList, literalPieces]
  split
  · rfl
  · rw [List.mapM_cons, List.mapM_nil, piece, String.ofList_toList]
    rfl

/-- The token of a text is expanded to the text. -/
theorem join_textToken (scopes : Scopes) (text : String) :
    String.join ((textToken text.toList).map (tokenText scopes)) = text := by
  rw [textToken_toList]
  split
  · rename_i h
    rw [h]
    rfl
  · simp [tokenText, String.join]

/-- The text of a marker. -/
def marker (body : List Char) : String := String.ofList ('$' :: '{' :: (body ++ ['}']))

variable {before : String} {body : List Char}

/-- **A marker between two texts is a token between theirs.** -/
theorem scan_around (hb : isPlain before = true) (hp : Passes .outside body .outside)
    (after : String) :
    scan (before ++ marker body ++ after) = textToken before.toList ++
      .marker body (Text.utf8Size before.toList) ::
        (scan after).map (Token.shift (Text.utf8Size (before ++ marker body).toList)) := by
  have hl : (before ++ marker body ++ after).toList =
      before.toList ++ '$' :: '{' :: (body ++ '}' :: after.toList) := by
    simp [marker]
  have hplain : Text.contains ['$', '{'] before.toList = false := by simpa [isPlain] using hb
  have hsize : 0 + Text.utf8Size before.toList + 3 + Text.utf8Size body =
      Text.utf8Size (before ++ marker body).toList + 0 := by
    have hm : Text.utf8Size (marker body).toList = 3 + Text.utf8Size body := by
      have hbraces : Text.utf8Size ['$', '{'] + Text.utf8Size ['}'] = 3 := by decide
      have hsplit : (marker body).toList = ['$', '{'] ++ body ++ ['}'] := by simp [marker]
      rw [hsplit, utf8Size_append, utf8Size_append]
      omega
    rw [String.toList_append, utf8Size_append, hm]
    omega
  rw [scan, hl, scanFrom_marker (breakMarker_before hplain _) (closeFrom_eq_some.2 ⟨rfl, hp⟩), hsize,
    scanFrom_shift, Nat.zero_add]
  rfl

/-- **A template is read around a reference:** the text before it, the reference, and the pieces of
what follows; or the error of what follows, found later. -/
theorem parse_around (hb : isPlain before = true) (hp : Passes .outside body .outside)
    {r : Reference} (hr : parseMarker body = .ok r) (after : String) :
    parse (before ++ marker body ++ after) =
      ((parse after).mapError
        (Error.shift (Text.utf8Size (before ++ marker body).toList))).map
          (literalPieces before ++ .reference r :: ·) := by
  have hm : piece (.marker body (Text.utf8Size before.toList)) = .ok (.reference r) := by
    rw [piece, hr]
    rfl
  rw [parse, scan_around hb hp, List.mapM_append, List.mapM_cons, mapM_piece_textToken, hm,
    mapM_piece_shift, parse]
  cases (scan after).mapM piece <;> rfl

/-- **A template is expanded around a marker.** -/
theorem expand_around (hb : isPlain before = true) (hp : Passes .outside body .outside)
    (after : String) (scopes : Scopes) :
    expand (before ++ marker body ++ after) scopes =
      before ++ (markerText scopes body).getD "" ++ expand after scopes := by
  have hshift : ∀ n, ((scan after).map (Token.shift n)).map (tokenText scopes) =
      (scan after).map (tokenText scopes) := fun n => by
    rw [List.map_map]
    exact List.map_congr_left fun t _ => tokenText_shift scopes n t
  rw [expand, scan_around hb hp, List.map_append, List.map_cons, hshift, String.join_append,
    join_textToken, String.join_cons, ← String.append_assoc]
  rfl

/-! ## A path with a default -/

/-- What stands in a marker with a default: the path, the bars, and the text of the default. -/
def defaultBody (path raw : String) : List Char :=
  path.toList ++ ' ' :: '|' :: '|' :: ' ' :: raw.toList

variable {p : String} {path : Path}

/-- No quote opens in a path. -/
theorem unquoted_of_parse (hp : Path.parse p = .ok path) :
    ∀ c ∈ p.toList, c ≠ '"' ∧ c ≠ '\'' := fun _ hc =>
  ⟨ne_of_mem_of_not_mem hc (Path.notMem_of_parse hp (by decide)),
    ne_of_mem_of_not_mem hc (Path.notMem_of_parse hp (by decide))⟩

/-- No quote opens in a path or in the bars behind it, and no brace closes the marker. -/
theorem passes_bars (hp : Path.parse p = .ok path) :
    Passes .outside (p.toList ++ [' ', '|', '|', ' ']) .outside := by
  refine passes_outside (List.forall_mem_append.2 ⟨fun c hc => ?_, by simp⟩)
  obtain ⟨hd, hs⟩ := unquoted_of_parse hp c hc
  exact ⟨hd, hs, ne_of_mem_of_not_mem hc (Path.notMem_of_parse hp (by decide))⟩

/-- A scan passes the path and the bars before a default. -/
theorem passes_defaultBody (hp : Path.parse p = .ok path) {raw : String} {q : Quoting}
    (h : Passes .outside raw.toList q) : Passes .outside (defaultBody p raw) q := by
  have hb := (passes_bars hp).append h
  rwa [List.append_assoc] at hb

/-- A path that is read, and a default, are a reference. -/
theorem parseMarker_defaultBody (hp : Path.parse p = .ok path) {raw value : String}
    (hd : parseDefault raw.toList = .ok value) :
    parseMarker (defaultBody p raw) = .ok ⟨Text.trimString p, path, some value⟩ :=
  parseMarker_default (Except.toOption_eq_some.2 hp) (unquoted_of_parse hp)
    (Path.notMem_of_parse hp (by decide)) hd

/-- Where the path names nothing, the default is shown. -/
theorem markerText_defaultBody (hp : Path.parse p = .ok path) {raw value : String}
    (hd : parseDefault raw.toList = .ok value) {scopes : Scopes} (hs : scopes.display? path = none) :
    markerText scopes (defaultBody p raw) = some value := by
  rw [markerText_eq (parseMarker_defaultBody hp hd), Reference.value?, hs]
  rfl

/-! ## Quoted defaults -/

/-- A text with a backslash before each backslash and each quote. -/
def escape (quote : Char) (text : List Char) : List Char :=
  text.flatMap fun c => if c = '\\' ∨ c = quote then ['\\', c] else [c]

/-- A text between quotes. -/
def quoted (quote : Char) (text : String) : String :=
  String.ofList (quote :: escape quote text.toList ++ [quote])

/-- **The escaped text stands for the text.** -/
theorem isLiteral_escape (quote : Char) (text : List Char) :
    IsLiteral quote (escape quote text) text := by
  induction text with
  | nil => exact .nil
  | cons c text ih =>
    rw [escape, List.flatMap_cons]
    split
    · exact .escaped ih
    · rename_i hc
      rw [not_or] at hc
      exact .plain hc.1 hc.2 ih

/-- **Any text can be written as a quoted default.**  Behind a text without markers, a marker of a
path and the text between quotes is a reference to the path with the text as its default, and what
follows is read as it is read alone, or has the error that it has alone, found later; and where the
path names nothing, the text is shown. -/
theorem parse_quoted {before p : String} {path : Path} {quote : Char}
    (hb : isPlain before = true) (hp : Path.parse p = .ok path) (hq : IsQuote quote)
    (text after : String) :
    parse (before ++ marker (defaultBody p (quoted quote text)) ++ after) =
      ((parse after).mapError (Error.shift
        (Text.utf8Size (before ++ marker (defaultBody p (quoted quote text))).toList))).map
          (literalPieces before ++ .reference ⟨Text.trimString p, path, some text⟩ :: ·) ∧
    ∀ scopes : Scopes, scopes.display? path = none →
      expand (before ++ marker (defaultBody p (quoted quote text)) ++ after) scopes =
        before ++ text ++ expand after scopes := by
  have hl := isLiteral_escape quote text.toList
  have hd : parseDefault (quoted quote text).toList = .ok text := by
    rw [quoted, String.toList_ofList, parseDefault_quoted hl hq, String.ofList_toList]
  have hpass : Passes .outside (defaultBody p (quoted quote text)) .outside := by
    refine passes_defaultBody hp ?_
    rw [quoted, String.toList_ofList]
    exact hl.passes_quoted hq
  refine ⟨parse_around hb hpass (parseMarker_defaultBody hp hd) after, fun scopes hs => ?_⟩
  rw [expand_around hb hpass, markerText_defaultBody hp hd hs, Option.getD_some]

/-- A default with quotes, backslashes, braces, bars and a marker in it, between a dollar sign and a
marker that is never closed. -/
theorem parse_quoted_marks :
    parse ("$" ++ marker (defaultBody " args.n " (quoted '\'' "it's \\ $\x7b\x7d||")) ++ "!") =
        .ok [.literal "$", .reference ⟨"args.n", [.key "args", .key "n"], some "it's \\ $\x7b\x7d||"⟩,
          .literal "!"] ∧
      parse ("$" ++ marker (defaultBody " args.n " (quoted '\'' "it's \\ $\x7b\x7d||")) ++ "!$\x7b") =
        .error (.unterminated 33) ∧
      expand ("$" ++ marker (defaultBody " args.n " (quoted '\'' "it's \\ $\x7b\x7d||")) ++ "!")
        (.forInvocation (.obj []) .null) = "$it's \\ $\x7b\x7d||!" := by
  have hp : Path.parse " args.n " = .ok [.key "args", .key "n"] := by decide +kernel
  have h := parse_quoted (show isPlain "$" = true by decide) hp (.inr rfl) "it's \\ $\x7b\x7d||"
  refine ⟨(h "!").1.trans ?_, (h "!$\x7b").1.trans ?_, ((h "!").2 _ ?_).trans ?_⟩
  all_goals decide +kernel

/-! ## Defaults without quotes -/

/-- Every quote that opens in a text is closed in it. -/
def QuotesClose (text : String) : Prop := text.toList.foldl Quoting.next .outside = .outside

instance : DecidablePred QuotesClose := fun _ => inferInstanceAs (Decidable (_ = _))

/-- A text without closing braces is passed, whatever quotes it holds. -/
theorem passes_foldl {cs : List Char} (h : '}' ∉ cs) (q : Quoting) :
    Passes q cs (cs.foldl Quoting.next q) := by
  induction cs generalizing q with
  | nil => exact .nil
  | cons c cs ih =>
    rw [List.mem_cons, not_or] at h
    exact .cons (fun hc => h.1 hc.2.symm) (ih h.2 (q.next c))

/-- A brace inside quotes does not close a marker. -/
theorem Passes.not_closed {q r : Quoting} {cs : List Char} (h : Passes q cs r) (hr : r ≠ .outside) :
    closeFrom q (cs ++ ['}']) = none := by
  induction h with
  | nil => rw [List.nil_append, closeFrom, if_neg fun hc => hr hc.1, closeFrom, Option.map_none]
  | cons hc _ ih => rw [List.cons_append, closeFrom, if_neg hc, ih hr, Option.map_none]

/-- A text that does not open with a quote, and has no marker in it, is a default as it is, without
the blanks around it. -/
theorem parseDefault_bare {text : String} (hm : isPlain text = true)
    (hq : ∀ c ∈ (Text.trim text.toList).head?, ¬IsQuote c) :
    parseDefault text.toList = .ok (Text.trimString text) := by
  have hin : Text.trim text.toList <:+: text.toList := by
    obtain ⟨before, after, ht, -⟩ := Text.exists_blanks_around text.toList
    exact ⟨before, after, ht.symm⟩
  have hplain : Text.contains ['$', '{'] (Text.trim text.toList) = false := by
    have ht : Text.contains ['$', '{'] text.toList = false := by simpa [isPlain] using hm
    exact Text.contains_eq_false.2 fun h => Text.contains_eq_false.1 ht (h.trans hin)
  rw [parseDefault]
  simp only [hplain]
  split
  · rename_i c cs hcs
    rw [hcs] at hq
    have hc : ¬(c = '"' ∨ c = '\'') := hq c rfl
    rw [if_neg hc]
    rfl
  · rfl

/-- **A text without braces can be written as a default without quotes if its quotes close.**  Let
it hold neither `}` nor `${`, and open with no quote.  If every quote that opens in it is closed in
it, then the marker of a path with this text is a reference to the path with the text without its
outer blanks as its default, and this is shown where the path names nothing.  If not, the marker
never ends: the template is refused, and expands to itself. -/
theorem parse_bare {p text : String} {path : Path} (hp : Path.parse p = .ok path)
    (hb : '}' ∉ text.toList) (hm : isPlain text = true)
    (hq : ∀ c ∈ (Text.trim text.toList).head?, ¬IsQuote c) :
    (QuotesClose text →
      parse (marker (defaultBody p text)) =
        .ok [.reference ⟨Text.trimString p, path, some (Text.trimString text)⟩] ∧
      ∀ scopes : Scopes, scopes.display? path = none →
        expand (marker (defaultBody p text)) scopes = Text.trimString text) ∧
    (¬QuotesClose text →
      parse (marker (defaultBody p text)) = .error (.unterminated 0) ∧
      ∀ scopes : Scopes, expand (marker (defaultBody p text)) scopes =
        marker (defaultBody p text)) := by
  have hd := parseDefault_bare hm hq
  have hl : (marker (defaultBody p text)).toList = '$' :: '{' :: (defaultBody p text ++ ['}']) :=
    String.toList_ofList
  have hpass := passes_defaultBody hp (passes_foldl hb .outside)
  constructor
  · intro hc
    rw [show text.toList.foldl Quoting.next .outside = .outside from hc] at hpass
    constructor
    · have hr := parseMarker_defaultBody hp hd
      rw [parse, scan_marker hl hpass, List.mapM_cons, List.mapM_nil, piece, hr]
      rfl
    · intro scopes hs
      rw [expand_marker hl hpass, markerText_defaultBody hp hd hs, Option.getD_some]
  · intro hc
    have hbreak : breakMarker ('$' :: '{' :: (defaultBody p text ++ ['}'])) =
        ([], some (defaultBody p text ++ ['}'])) := by
      rw [breakMarker]
    have hs : scan (marker (defaultBody p text)) =
        [.unterminated (marker (defaultBody p text)).toList 0] := by
      rw [scan, hl]
      exact scanFrom_unterminated hbreak (hpass.not_closed hc)
    constructor
    · rw [parse, hs]
      rfl
    · intro scopes
      rw [expand, hs]
      simp [tokenText, String.join]

/-- Quotes that close in pairs. -/
theorem parse_bare_pairs :
    parse (marker (defaultBody "args.n" " say \"don't\" || no ")) =
        .ok [.reference ⟨"args.n", [.key "args", .key "n"], some "say \"don't\" || no"⟩] ∧
      expand (marker (defaultBody "args.n" " say \"don't\" || no ")) (.forInvocation (.obj []) .null) =
        "say \"don't\" || no" := by
  have hp : Path.parse "args.n" = .ok [.key "args", .key "n"] := by decide +kernel
  have hopen : (Text.trim " say \"don't\" || no ".toList).head? = some 's' := by decide
  have hq : ∀ c ∈ (Text.trim " say \"don't\" || no ".toList).head?, ¬IsQuote c := by
    rw [hopen]
    rintro c ⟨⟩
    decide
  have h := (parse_bare hp (by decide) (by decide) hq).1 (by decide)
  exact ⟨h.1, h.2 _ (by decide +kernel)⟩

/-- Where a text cannot be written without quotes: an apostrophe in it is never closed. -/
theorem parse_bare_apostrophe :
    Path.parse "args.x" = .ok [.key "args", .key "x"] ∧
      '}' ∉ "I don't know".toList ∧ isPlain "I don't know" = true ∧
      (Text.trim "I don't know".toList).head? = some 'I' ∧
      parse "$\x7bargs.x || I don't know\x7d" = .error (.unterminated 0) ∧
      expand "$\x7bargs.x || I don't know\x7d" (.forInvocation (.obj []) .null) =
        "$\x7bargs.x || I don't know\x7d" := by
  decide +kernel

end Template
end AgentTool
