import AgentTool.Proofs.StrictTemplates

/-!
# The text of a template

There are two readings of a template.  The strict one is made once, when a tool is
compiled, and gives pieces; the lenient one is made whenever the template is expanded,
and cuts each marker anew.  On a strict template they agree: the expansion is the
concatenation of what its pieces show (`expand_pieces`).

| piece | shows |
| --- | --- |
| literal | itself |
| reference whose path names a value other than null | the text of that value |
| any other reference | its default, or nothing |

The pieces are fixed by the template alone, so that a text which is put in is copied and
never read, whatever markers it holds.
-/

namespace AgentTool

/-- The values without a text are the nulls. -/
theorem Json.display?_eq_none {v : Json} : v.display? = none ↔ v = .null := by
  cases v <;> simp [Json.display?]

namespace Template

/-! ## What pieces show -/

/-- The text that stands for a reference: that of the value that its path names, if there is one and
it is not null, or else its default, or else nothing. -/
def Reference.shown (r : Reference) (scopes : Scopes) : String :=
  match scopes.resolveText? r.text with
  | none | some .null => r.fallback.getD ""
  | some v => v.display?.getD ""

/-- The text that a piece shows. -/
def Piece.shown (scopes : Scopes) : Piece → String
  | .literal s => s
  | .reference r => r.shown scopes

/-- What a marker expands to is what its reference shows. -/
theorem markerText_shown {body : List Char} {r : Reference} (h : parseMarker body = .ok r)
    (scopes : Scopes) : (markerText scopes body).getD "" = r.shown scopes := by
  have hr : scopes.resolveText? r.text = scopes.resolve? r.path := by
    rw [Scopes.resolveText?, (of_parseMarker h).2.1, Option.bind_some]
  rw [markerText_eq h, Reference.value?, Scopes.display?, ← hr, Reference.shown]
  split
  · rename_i hv
    rw [hv]
    rfl
  · rename_i hv
    rw [hv]
    rfl
  · rename_i v hn hv
    have hd : v.display? ≠ none := fun h => hn (Json.display?_eq_none.1 h)
    obtain ⟨text, ht⟩ := Option.ne_none_iff_exists'.1 hd
    rw [hv, Option.bind_some, ht]
    rfl

/-- A token expands to what its piece shows. -/
theorem Reads.tokenText {t : Token} {p : Piece} (h : Reads t p) (scopes : Scopes) :
    tokenText scopes t = p.shown scopes := by
  cases t with
  | text cs =>
    rw [h.text]
    rfl
  | marker body offset =>
    obtain ⟨r, hr, rfl⟩ := h.marker
    exact markerText_shown hr scopes
  | unterminated rest offset => exact absurd h not_reads_unterminated

/-- Tokens expand to what their pieces show, one for one. -/
theorem map_tokenText {ts : List Token} {ps : List Piece} (h : List.Forall₂ Reads ts ps)
    (scopes : Scopes) : ts.map (tokenText scopes) = ps.map (Piece.shown scopes) := by
  induction h with
  | nil => rfl
  | cons hr _ ih => rw [List.map_cons, List.map_cons, hr.tokenText, ih]

/-! ## Templates without markers -/

/-- A text in which no marker opens is passed over as a whole. -/
theorem breakMarker_of_not_contains {cs : List Char} (h : Text.contains ['$', '{'] cs = false) :
    breakMarker cs = (cs, none) := by
  fun_induction breakMarker cs with
  | case1 => rfl
  | case2 cs => simp [Text.contains, Text.breakOn?, Text.dropLead?] at h
  | case3 c cs hc ih =>
    have hd : Text.dropLead? ['$', '{'] (c :: cs) = none := by
      cases cs with
      | nil => simp [Text.dropLead?]
      | cons d ds =>
        simp only [Text.dropLead?]
        split
        · rename_i hdollar
          split
          · rename_i hbrace
            exact (hc ds hdollar.symm (by rw [hbrace])).elim
          · rfl
        · rfl
    have hcs : Text.contains ['$', '{'] cs = false := by
      simpa [Text.contains, Text.breakOn?, hd] using h
    rw [ih hcs]

/-- A template without markers expands to itself. -/
theorem expand_of_isPlain {template : String} (h : isPlain template = true) (scopes : Scopes) :
    expand template scopes = template := by
  have hc : Text.contains ['$', '{'] template.toList = false := by simpa [isPlain] using h
  have ht : scan template = textToken template.toList := by
    rw [scan, scanFrom]
    split
    · rename_i text hb
      rw [breakMarker_of_not_contains hc] at hb
      rw [(Prod.mk.inj hb).1]
    · rename_i text inner hb
      rw [breakMarker_of_not_contains hc] at hb
      cases hb
  rw [expand, ht, textToken]
  split
  · rename_i he
    have hn : template.toList = [] := List.isEmpty_iff.1 he
    simp [String.join, ← String.toList_inj, hn]
  · simp [tokenText, String.join]

/-! ## The two readings agree -/

/-- **A strict template expands to what its pieces show.**  It is the concatenation of the literals
as they are and, for each reference, the text of its value, its default, or nothing.  So a text that
a reference stands for occurs in it once and as it is, whatever markers it holds; and a template
without markers expands to itself. -/
theorem expand_pieces (template : String) (scopes : Scopes) :
    (∀ ps, parse template = .ok ps →
      expand template scopes = String.join (ps.map (Piece.shown scopes)) ∧
      ∀ before r after text, ps = before ++ .reference r :: after →
        scopes.resolveText? r.text = some (.str text) ∨
          scopes.resolveText? r.text = none ∧ r.fallback = some text →
        expand template scopes = String.join (before.map (Piece.shown scopes)) ++ text ++
          String.join (after.map (Piece.shown scopes))) ∧
    (isPlain template = true → expand template scopes = template) := by
  refine ⟨fun ps hp => ?_, fun h => expand_of_isPlain h scopes⟩
  have he : expand template scopes = String.join (ps.map (Piece.shown scopes)) := by
    rw [expand, map_tokenText (parse_eq_ok.1 hp)]
  refine ⟨he, ?_⟩
  rintro before r after text rfl ht
  have hr : r.shown scopes = text := by
    rcases ht with hv | ⟨hn, hd⟩
    · simp [Reference.shown, hv, Json.display?]
    · simp [Reference.shown, hn, hd]
  rw [he, List.map_append, List.map_cons, String.join_append, String.join_cons, Piece.shown, hr,
    String.append_assoc]

/-- A default and a value that look like markers are put in as they are, and a text without markers
stays as it is. -/
theorem expand_marker_texts :
    parse "$\x7bargs.n || \"$\x7bargs.v\x7d\"\x7d: $\x7bargs.v\x7d" =
        .ok [.reference ⟨"args.n", [.key "args", .key "n"], some "$\x7bargs.v\x7d"⟩, .literal ": ",
          .reference ⟨"args.v", [.key "args", .key "v"], none⟩] ∧
      expand "$\x7bargs.n || \"$\x7bargs.v\x7d\"\x7d: $\x7bargs.v\x7d"
          (.forInvocation (.obj [("v", .str "$\x7bargs.n\x7d")]) .null) =
        "$\x7bargs.v\x7d: $\x7bargs.n\x7d" ∧
      expand "$ \x7bargs.v\x7d" (.forInvocation .null .null) = "$ \x7bargs.v\x7d" := by
  have hp : parse "$\x7bargs.n || \"$\x7bargs.v\x7d\"\x7d: $\x7bargs.v\x7d" =
      .ok [.reference ⟨"args.n", [.key "args", .key "n"], some "$\x7bargs.v\x7d"⟩, .literal ": ",
        .reference ⟨"args.v", [.key "args", .key "v"], none⟩] := by
    decide +kernel
  have he := ((expand_pieces _ (.forInvocation (.obj [("v", .str "$\x7bargs.n\x7d")]) .null)).1 _ hp).2
    [] _ _ "$\x7bargs.v\x7d" rfl (.inr ⟨by decide +kernel, rfl⟩)
  refine ⟨hp, he.trans ?_, (expand_pieces _ _).2 (by decide +kernel)⟩
  decide +kernel

end Template
end AgentTool
