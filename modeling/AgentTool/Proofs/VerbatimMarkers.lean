import AgentTool.Proofs.Acceptance
import AgentTool.Proofs.DotSegments
import AgentTool.Proofs.ScanLaws

/-!
# Markers that are put in verbatim

A marker that opens an address, or that stands in its authority, is put in as it is; any other is
encoded.  Where a marker stands is told from the literal text before it, by the first `://` in it:

| literal text before the marker | the marker |
| --- | --- |
| holds a `?` or a `#` | is encoded for a query |
| is empty | is verbatim |
| has no slash behind its first `://` | is verbatim |
| any other | is encoded for a path |

The first `://` is the one behind the scheme if the address opens with a scheme.  If it opens with a
marker, the scheme and its `://` may come from a value, and then the first `://` of the literal text
is one within the path: what stands behind it is taken for an authority
(`forUrl_eq_verbatim_iff`, `verbatim_behind_path`).
-/

namespace AgentTool

namespace Text

/-- What stands between the scheme and the authority of an address. -/
def schemeMark : List Char := [':', '/', '/']

/-- The mark does not overlap with itself: it opens a text that ends before it only if it stands in
that text. -/
theorem schemeMark_opens {before after : List Char} (hne : before ≠ [])
    (h : schemeMark <+: before ++ schemeMark ++ after) : schemeMark <+: before := by
  rcases before with _ | ⟨a, _ | ⟨b, _ | ⟨c, before⟩⟩⟩
  · exact absurd rfl hne
  · simp [schemeMark, List.cons_prefix_cons] at h
  · simp [schemeMark, List.cons_prefix_cons] at h
  · simpa [schemeMark, List.cons_prefix_cons] using h

/-- **A text is cut at the only place of the mark that has no other before it.** -/
theorem breakOn?_schemeMark {cs before after : List Char} :
    breakOn? schemeMark cs = some (before, after) ↔
      cs = before ++ schemeMark ++ after ∧ ¬schemeMark <:+: before := by
  induction cs generalizing before with
  | nil => simp [breakOn?, schemeMark]
  | cons c cs ih =>
    rw [breakOn?]
    cases hd : dropLead? schemeMark (c :: cs) with
    | some rest =>
      have hcs := dropLead?_eq_some.1 hd
      constructor
      · rintro ⟨⟩
        exact ⟨hcs, by simp [schemeMark]⟩
      · rintro ⟨he, hn⟩
        cases before with
        | nil =>
          rw [List.nil_append, hcs, List.append_cancel_left_eq] at he
          rw [he]
        | cons b before =>
          have hp : schemeMark <+: b :: before ++ schemeMark ++ after := ⟨rest, hcs.symm.trans he⟩
          exact absurd (schemeMark_opens (List.cons_ne_nil b before) hp).isInfix hn
    | none =>
      have hno : ∀ ds, c :: cs ≠ schemeMark ++ ds := fun ds he => by
        rw [dropLead?_eq_some.2 he] at hd
        cases hd
      rw [Option.map_eq_some_iff]
      constructor
      · rintro ⟨⟨b, a⟩, hb, ⟨⟩⟩
        obtain ⟨rfl, hn⟩ := ih.1 hb
        refine ⟨rfl, fun hin => ?_⟩
        rcases List.infix_cons_iff.1 hin with ⟨ds, hp⟩ | hin
        · exact hno (ds ++ schemeMark ++ a) (by simp only [← List.append_assoc, hp, List.cons_append])
        · exact hn hin
      · rintro ⟨he, hn⟩
        cases before with
        | nil => exact absurd he (hno after)
        | cons b before =>
          rw [List.cons_append, List.cons_append] at he
          obtain ⟨rfl, htail⟩ := List.cons.inj he
          exact ⟨(before, after), ih.2 ⟨htail, fun hin => hn (List.infix_cons hin)⟩, rfl⟩

end Text

namespace Template

open Text (schemeMark)

/-! ## The literal text before a marker -/

/-- The literal text of tokens, in order. -/
def literalText : List Token → List Char
  | [] => []
  | .text cs :: ts => cs ++ literalText ts
  | .marker _ _ :: ts => literalText ts
  | .unterminated _ _ :: ts => literalText ts

/-- The literal text of a text is the text. -/
theorem literalText_textToken (cs : List Char) (ts : List Token) :
    literalText (textToken cs ++ ts) = cs ++ literalText ts := by
  unfold textToken
  split
  · rename_i h
    rw [List.isEmpty_iff.1 h]
    rfl
  · rfl

/-- The parts of tokens go on behind the literal text of the tokens before. -/
theorem parts_append (scopes : Scopes) (literal : List Char) (ts us : List Token) :
    parts scopes literal (ts ++ us) =
      parts scopes literal ts ++ parts scopes (literal ++ literalText ts) us := by
  induction ts generalizing literal with
  | nil => rw [literalText, List.append_nil]; rfl
  | cons t ts ih =>
    cases t with
    | text cs =>
      rw [List.cons_append, parts, parts, ih, literalText, List.append_assoc, List.cons_append]
    | marker body offset => rw [List.cons_append, parts, parts, ih, literalText, List.cons_append]
    | unterminated rest offset =>
      rw [List.cons_append, parts, parts, ih, literalText, List.cons_append]

/-- The literal text before any marker starts with all the text before the first one. -/
theorem prefix_literalText {start : Nat} {cs body text : List Char} {offset : Nat}
    {before after : List Token} (h : scanFrom start cs = before ++ .marker body offset :: after)
    (ht : text <+: (breakMarker cs).1) : text <+: literalText before := by
  have hfirst : ∃ ts, scanFrom start cs = textToken (breakMarker cs).1 ++ ts := by
    unfold scanFrom
    split
    · rename_i hb
      exact ⟨[], by rw [hb, List.append_nil]⟩
    · rename_i hb
      rw [hb]
      split
      · exact ⟨_, rfl⟩
      · exact ⟨_, rfl⟩
  obtain ⟨ts, hts⟩ := hfirst
  obtain ⟨mid, rfl, -⟩ := eq_of_textToken_append (hts.symm.trans h)
  rw [literalText_textToken]
  exact ht.trans (List.prefix_append _ _)

/-! ## Where a verbatim marker stands -/

/-- Literal text that ends in an authority: a scheme, the mark behind it, and no character that ends
an authority or could not stand before one. -/
def EndsInAuthority (literal : List Char) : Prop :=
  ∃ scheme authority, literal = scheme ++ schemeMark ++ authority ∧ StaysInside scheme ∧
    StaysInside authority

/-- Literal text of which the first mark stands behind a slash, in a path without a query and a
fragment, and no slash follows the mark. -/
def EndsBehindPathMark (literal : List Char) : Prop :=
  ∃ path behind, literal = path ++ schemeMark ++ behind ∧ ¬schemeMark <:+: path ∧ '/' ∈ path ∧
    '?' ∉ path ∧ '#' ∉ path ∧ StaysInside behind

/-- A marker is verbatim by the literal text before it alone. -/
theorem forUrl_eq_verbatim {literal : List Char} {offset : Nat} :
    Encoding.forUrl literal offset = .verbatim ↔ ('?' ∉ literal ∧ '#' ∉ literal) ∧
      (offset = 0 ∨ ∃ before behind, literal = before ++ schemeMark ++ behind ∧
        ¬schemeMark <:+: before ∧ '/' ∉ behind) := by
  have hmarks : (literal.any fun c => c == '?' || c == '#') = false ↔
      '?' ∉ literal ∧ '#' ∉ literal := by
    rw [List.any_eq_false]
    constructor
    · intro h
      exact ⟨fun hm => h _ hm (by decide), fun hm => h _ hm (by decide)⟩
    · rintro ⟨hq, hf⟩ c hc hm
      simp only [Bool.or_eq_true, beq_iff_eq] at hm
      rcases hm with rfl | rfl
      · exact hq hc
      · exact hf hc
  rw [← hmarks]
  unfold Encoding.forUrl
  cases literal.any fun c => c == '?' || c == '#' with
  | true => simp
  | false =>
    by_cases ho : offset = 0
    · simp [ho]
    · simp only [Bool.false_eq_true, if_false, true_and, false_or, ho]
      cases hb : Text.breakOn? [':', '/', '/'] literal with
      | none =>
        refine iff_of_false nofun ?_
        rintro ⟨before, behind, he, hn, -⟩
        rw [show Text.breakOn? [':', '/', '/'] literal = some (before, behind) from
          Text.breakOn?_schemeMark.2 ⟨he, hn⟩] at hb
        cases hb
      | some cut =>
        obtain ⟨before, behind⟩ := cut
        obtain ⟨he, hn⟩ := Text.breakOn?_schemeMark.1 hb
        by_cases hs : '/' ∈ behind
        · refine iff_of_false (by simp [hs]) ?_
          rintro ⟨before', behind', he', hn', hs'⟩
          have hb' := Text.breakOn?_schemeMark.2 ⟨he', hn'⟩
          obtain ⟨rfl, rfl⟩ := Prod.mk.inj (Option.some.inj (hb.symm.trans hb'))
          exact hs' hs
        · exact iff_of_true (by simp [hs]) ⟨before, behind, he, hn, hs⟩

/-- What stays inside a segment holds no mark of a scheme. -/
theorem StaysInside.not_schemeMark {cs : List Char} (h : StaysInside cs) : ¬schemeMark <:+: cs :=
  fun hin => h.slash (hin.subset (by simp [schemeMark]))

/-! ## The opening of an address -/

/-- A text that is a scheme and the mark in lower case is a scheme and the mark. -/
theorem scheme_of_lowerCase {name cs : List Char} (h : name ++ schemeMark <+: cs.map Char.toLower) :
    ∃ scheme, scheme.map Char.toLower = name ∧ scheme ++ schemeMark <+: cs := by
  obtain ⟨rest, hr⟩ := h
  obtain ⟨lead, ds, rfl, hlead, -⟩ := List.map_eq_append_iff.1 hr.symm
  obtain ⟨scheme, mark, rfl, hscheme, hmark⟩ := List.map_eq_append_iff.1 hlead
  refine ⟨scheme, hscheme, ds, ?_⟩
  have hlower : ∀ c : Char, c.isAlpha = false → ∀ d : Char, d.toLower = c → d = c :=
    fun c hc d hd => (Check.toLower_eq_iff hc).1 hd
  rcases mark with _ | ⟨a, _ | ⟨b, _ | ⟨c, _ | ⟨d, mark⟩⟩⟩⟩ <;> simp [schemeMark] at hmark
  obtain ⟨ha, hb, hc⟩ := hmark
  rw [hlower ':' (by decide) a ha, hlower '/' (by decide) b hb, hlower '/' (by decide) c hc]
  rfl

/-- A name of letters, in any case, behind blanks. -/
theorem staysInside_scheme {name scheme blanks : List Char} (hname : scheme.map Char.toLower = name)
    (hn : name.all Char.isAlpha = true)
    (hb : ∀ c ∈ blanks, Text.isBlank c = true) :
    StaysInside (blanks ++ scheme) ∧ '$' ∉ blanks ++ scheme := by
  have hnot : ∀ c ∈ ['/', '?', '#', '$'], c ∉ blanks ++ scheme := by
    intro c hc hm
    rcases List.mem_append.1 hm with hm | hm
    · have hvisible : ['/', '?', '#', '$'].all (fun c => !Text.isBlank c) = true := by decide
      have hv := List.all_eq_true.1 hvisible c hc
      rw [hb c hm] at hv
      cases hv
    · have hother : ['/', '?', '#', '$'].all (fun c => !c.toLower.isAlpha) = true := by decide
      have ho := List.all_eq_true.1 hother c hc
      rw [List.all_eq_true.1 hn c.toLower (hname ▸ List.mem_map_of_mem hm)] at ho
      cases ho
  exact ⟨⟨hnot _ (by decide), hnot _ (by decide), hnot _ (by decide)⟩, hnot _ (by decide)⟩

/-- An address opens with a marker, or with a scheme and the mark behind it. -/
theorem opening_cases {url : String} (ho : OpensAddress (Text.trim url.toList)) :
    ['$', '{'] <+: Text.trim url.toList ∨ ∃ scheme, StaysInside scheme ∧ '$' ∉ scheme ∧
      scheme ++ schemeMark <+: url.toList := by
  have hsplit : url.toList.takeWhile Text.isBlank ++ Text.trimLeft url.toList = url.toList :=
    List.takeWhile_append_dropWhile
  have htrim : Text.trim url.toList <+: Text.trimLeft url.toList := List.rdropWhile_prefix _ _
  have scheme_case : ∀ name : List Char, name.all Char.isAlpha = true →
      name ++ schemeMark <+: (Text.trim url.toList).map Char.toLower →
      ∃ scheme, StaysInside scheme ∧ '$' ∉ scheme ∧ scheme ++ schemeMark <+: url.toList := by
    intro name hn hp
    obtain ⟨scheme, hname, hs⟩ := scheme_of_lowerCase hp
    obtain ⟨hin, hd⟩ := staysInside_scheme hname hn fun c hc => List.mem_takeWhile_imp hc
    refine ⟨url.toList.takeWhile Text.isBlank ++ scheme, hin, hd, ?_⟩
    have hp := (List.prefix_append_right_inj (url.toList.takeWhile Text.isBlank)).2 (hs.trans htrim)
    rwa [hsplit, ← List.append_assoc] at hp
  rcases ho with h | h | h
  · exact .inr (scheme_case ['h', 't', 't', 'p'] (by decide) h)
  · exact .inr (scheme_case ['h', 't', 't', 'p', 's'] (by decide) h)
  · exact .inl h

/-! ## Verbatim markers of addresses -/

/-- What is put in encoded is escaped. -/
theorem escaped_written {e : Encoding} (he : e ≠ .verbatim) (value : Option String) :
    Text.Escaped (written e value) := by
  unfold written
  cases value with
  | none => exact .nil
  | some text =>
    cases e with
    | verbatim => exact absurd rfl he
    | query => exact Text.encodeForm_escaped _
    | pathSegment =>
      rw [Option.bind_some, Encoding.encode?]
      split
      · exact .nil
      · exact Text.encodeSegment_escaped _

/-- Only in an address that opens with a marker the first mark of the literal text before a marker
stands behind a slash: behind a scheme of its own it has none before it. -/
theorem opens_of_slash {url : String} (ho : OpensAddress (Text.trim url.toList))
    {before after : List Token} {body lead behind : List Char} {offset : Nat}
    (hs : scan url = before ++ .marker body offset :: after)
    (he : literalText before = lead ++ schemeMark ++ behind) (hn : ¬schemeMark <:+: lead)
    (hlead : '/' ∈ lead) : ['$', '{'] <+: Text.trim url.toList := by
  refine (opening_cases ho).resolve_right ?_
  rintro ⟨scheme, hin, hd, hp⟩
  have hprefix : scheme ++ schemeMark <+: literalText before := by
    refine prefix_literalText hs ?_
    obtain ⟨rest, hr⟩ := hp
    rw [← hr, breakMarker_prepend (by simp [hd, schemeMark])]
    exact List.prefix_append _ _
  obtain ⟨rest, hr⟩ := hprefix
  have h₁ := Text.breakOn?_schemeMark.2 ⟨hr.symm, hin.not_schemeMark⟩
  have h₂ := Text.breakOn?_schemeMark.2 ⟨he, hn⟩
  obtain ⟨rfl, -⟩ := Prod.mk.inj (Option.some.inj (h₁.symm.trans h₂))
  exact hin.slash hlead

/-- An address holds what is put in at a marker, between what stands before it and behind it. -/
theorem expandUrl_at_marker {url out : String} {scopes : Scopes} {before after : List Token}
    {body : List Char} {offset : Nat} (hs : scan url = before ++ .marker body offset :: after)
    (hout : expandUrl url scopes = .ok out) :
    out.toList = join (parts scopes [] before) ++
      written (Encoding.forUrl (literalText before) offset) (markerText scopes body) ++
      join (parts scopes (literalText before) after) := by
  obtain ⟨text, ht, rfl⟩ := Except.map_eq_ok.1 hout
  rw [String.toList_ofList, (expandUrlTokens_parts ht).1, hs, parts_append, List.nil_append, parts]
  simp only [join, List.flatMap_append, List.flatMap_cons, List.append_assoc]

/-- **Where markers are verbatim.**  A marker of an address is put in as it is only if it is the
first of all, or the literal text before it ends in an authority, or, in an address that opens with
a marker, this text ends behind a `://` of its path.  Any other marker is encoded: what stands in
its place holds no delimiter, whatever its value is. -/
theorem forUrl_eq_verbatim_iff {url path : String} (ha : Check.address url path = .ok ())
    {before after : List Token} {body : List Char} {offset : Nat}
    (hs : scan url = before ++ .marker body offset :: after) :
    (Encoding.forUrl (literalText before) offset = .verbatim ↔
      offset = 0 ∨ EndsInAuthority (literalText before) ∨
        ['$', '{'] <+: Text.trim url.toList ∧ EndsBehindPathMark (literalText before)) ∧
    ∀ scopes out, expandUrl url scopes = .ok out →
      out.toList = join (parts scopes [] before) ++
        written (Encoding.forUrl (literalText before) offset) (markerText scopes body) ++
        join (parts scopes (literalText before) after) ∧
      (Encoding.forUrl (literalText before) offset ≠ .verbatim →
        Text.Escaped (written (Encoding.forUrl (literalText before) offset)
          (markerText scopes body))) := by
  refine ⟨?_, fun scopes out hout => ⟨expandUrl_at_marker hs hout, fun he => escaped_written he _⟩⟩
  rw [forUrl_eq_verbatim]
  constructor
  · rintro ⟨⟨hq, hf⟩, rfl | ⟨lead, behind, he, hn, hslash⟩⟩
    · exact .inl rfl
    · have hopens := opens_of_slash (Check.address_eq_ok.1 ha).opening hs he hn
      rw [he] at hq hf
      simp only [List.mem_append, not_or] at hq hf
      have hbehind : StaysInside behind := ⟨hslash, hq.2, hf.2⟩
      by_cases hlead : '/' ∈ lead
      · exact .inr (.inr ⟨hopens hlead, lead, behind, he, hn, hlead, hq.1.1, hf.1.1, hbehind⟩)
      · exact .inr (.inl ⟨lead, behind, he, ⟨hlead, hq.1.1, hf.1.1⟩, hbehind⟩)
  · rintro (rfl | ⟨scheme, authority, he, hin, hau⟩ | ⟨-, lead, behind, he, hn, -, hq, hf, hbehind⟩)
    · rw [eq_nil_of_offset_eq_zero hs]
      exact ⟨⟨List.not_mem_nil, List.not_mem_nil⟩, .inl rfl⟩
    · rw [he]
      refine ⟨⟨?_, ?_⟩, .inr ⟨scheme, authority, rfl, hin.not_schemeMark, hau.slash⟩⟩
      · simp [schemeMark, hin.query, hau.query]
      · simp [schemeMark, hin.fragment, hau.fragment]
    · rw [he]
      refine ⟨⟨?_, ?_⟩, .inr ⟨lead, behind, rfl, hn, hbehind.slash⟩⟩
      · simp [schemeMark, hq, hbehind.query]
      · simp [schemeMark, hf, hbehind.fragment]

/-- A host is put in as it is, and an identifier in the path is encoded. -/
theorem verbatim_host :
    expandUrl "https://${args.host}/items/${args.id}"
        (.forInvocation (.obj [("host", .str "h:81"), ("id", .str "a/b?c")]) .null) =
          .ok "https://h:81/items/a%2Fb%3Fc" ∧
      Encoding.forUrl "https://".toList 8 = .verbatim ∧
      Encoding.forUrl "https:///items/".toList 27 ≠ .verbatim ∧
      Text.Escaped (written (Encoding.forUrl "https:///items/".toList 27) (some "a/b?c")) := by
  have ha : Check.address "https://${args.host}/items/${args.id}" "url" = .ok () := by decide +kernel
  have hs : scan "https://${args.host}/items/${args.id}" = [.text "https://".toList,
      .marker "args.host".toList 8, .text "/items/".toList, .marker "args.id".toList 27] := by
    decide +kernel
  have hu : expandUrl "https://${args.host}/items/${args.id}"
      (.forInvocation (.obj [("host", .str "h:81"), ("id", .str "a/b?c")]) .null) =
        .ok "https://h:81/items/a%2Fb%3Fc" := by
    decide +kernel
  have host := forUrl_eq_verbatim_iff ha (show scan _ = [.text "https://".toList] ++
    .marker "args.host".toList 8 :: [.text "/items/".toList, .marker "args.id".toList 27] from hs)
  have id := forUrl_eq_verbatim_iff ha (show scan _ = [.text "https://".toList,
    .marker "args.host".toList 8, .text "/items/".toList] ++ .marker "args.id".toList 27 :: [] from hs)
  have hne : Encoding.forUrl "https:///items/".toList 27 ≠ .verbatim := by decide +kernel
  refine ⟨hu, host.1.2 (.inr (.inl ⟨"https".toList, [], rfl, ?_, ?_⟩)), hne, ?_⟩
  · exact ⟨by decide, by decide, by decide⟩
  · exact ⟨by decide, by decide, by decide⟩
  · have hm : markerText (.forInvocation (.obj [("host", .str "h:81"), ("id", .str "a/b?c")]) .null)
        "args.id".toList = some "a/b?c" := by
      decide +kernel
    rw [← hm]
    exact ((id.2 _ _ hu).2 hne)

/-- **Behind a `://` in the path a marker is verbatim,** if the address opens with a marker: its
value brings in a segment and a query, though the literal text before it does not end in an
authority. -/
theorem verbatim_behind_path :
    Check.address "${global.base}/r/http://${args.x}" "url" = .ok () ∧
      scan "${global.base}/r/http://${args.x}" =
        [.marker "global.base".toList 0, .text "/r/http://".toList, .marker "args.x".toList 24] ∧
      Encoding.forUrl (literalText [.marker "global.base".toList 0, .text "/r/http://".toList]) 24 =
        .verbatim ∧
      ¬EndsInAuthority (literalText [.marker "global.base".toList 0, .text "/r/http://".toList]) ∧
      expandUrl "${global.base}/r/http://${args.x}"
          (.forInvocation (.obj [("x", .str "a/b?c")]) (.obj [("base", .str "https://h")])) =
        .ok "https://h/r/http://a/b?c" := by
  refine ⟨by decide +kernel, by decide +kernel, by decide +kernel, ?_, by decide +kernel⟩
  rintro ⟨scheme, authority, he, hin, -⟩
  cases scheme with
  | nil => cases he
  | cons c scheme =>
    obtain ⟨rfl, -⟩ := List.cons.inj he
    exact hin.slash List.mem_cons_self

end Template
end AgentTool
