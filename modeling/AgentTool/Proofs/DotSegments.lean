import AgentTool.Proofs.PathReadings
import AgentTool.Proofs.PercentLaws
import AgentTool.Proofs.StrictTemplates
import AgentTool.Tool.Check

/-!
# Dot segments of expanded addresses

A segment `.` or `..` is taken away when an address is read.  A value that is put into the path of
an address is refused if it is made of dots, and any other value but the empty one leaves a
character in its segment that is no dot.

| put into a segment | the segment |
| --- | --- |
| dots alone | the address is refused |
| any other text | is no dot segment |
| nothing | is what the rest of it makes |

So a dot segment is never made by what is put in: the address without it has the same dot segment in
the same place (`Template.expandUrl_dotSegments`).
-/

namespace AgentTool

namespace Text

/-! ## Values that are not dots alone -/

/-- The bytes of a character other than a dot are not all dots. -/
theorem exists_byte_ne_dot {c : Char} (h : c ≠ '.') : ∃ b ∈ String.utf8EncodeChar c, b ≠ 46 := by
  have hlast : ∀ v : Nat, UInt8.ofNat (v % 64 + 128) ≠ 46 := by
    intro v he
    have hn : (UInt8.ofNat (v % 64 + 128)).toNat = v % 64 + 128 := by
      rw [UInt8.toNat_ofNat']
      omega
    rw [he] at hn
    change 46 = _ at hn
    omega
  unfold String.utf8EncodeChar
  dsimp only
  split_ifs with h₁
  · refine ⟨_, List.mem_singleton_self _, fun he => h ?_⟩
    have hn : (UInt8.ofNat c.val.toNat).toNat = c.val.toNat := by
      rw [UInt8.toNat_ofNat']
      omega
    rw [he] at hn
    exact Char.ext (UInt32.toNat_inj.1 hn.symm)
  · exact ⟨_, by simp, hlast c.val.toNat⟩
  · exact ⟨_, by simp, hlast c.val.toNat⟩
  · exact ⟨_, by simp, hlast c.val.toNat⟩

/-- A byte other than a dot is not written as a dot. -/
theorem exists_segmentByte_ne_dot {b : UInt8} (h : b ≠ 46) : ∃ c ∈ segmentByte b, c ≠ '.' := by
  unfold segmentByte
  split
  · rename_i hb
    refine ⟨_, List.mem_singleton_self _, fun he => h ?_⟩
    have hn : b.toNat = 46 := by
      rw [← toNat_ofNat (keeps_spec (.inl hb)).1, he]
      rfl
    exact UInt8.toNat_inj.1 hn
  · exact ⟨'%', List.mem_cons_self, by decide⟩

/-- **A text that is not of dots alone is not written with dots alone.** -/
theorem exists_encodeSegment_ne_dot {cs : List Char} (h : ∃ c ∈ cs, c ≠ '.') :
    ∃ c ∈ encodeSegment cs, c ≠ '.' := by
  obtain ⟨c, hc, hne⟩ := h
  obtain ⟨b, hb, hbne⟩ := exists_byte_ne_dot hne
  obtain ⟨d, hd, hdne⟩ := exists_segmentByte_ne_dot hbne
  exact ⟨d, List.mem_flatMap.2 ⟨b, List.mem_flatMap.2 ⟨c, hc, hb⟩, hd⟩, hdne⟩

end Text

namespace Template

/-! ## Segments -/

/-- An address before its query and its fragment. -/
def pathText (url : List Char) : List Char := url.takeWhile fun c => !(c == '?' || c == '#')

/-- The stretches of an address between slashes, before its query and its fragment. -/
def pathSegments (url : List Char) : List (List Char) := Text.fields '/' (pathText url)

/-- A segment that stands for a place relative to the segments before it. -/
def IsDotSegment (seg : List Char) : Prop := seg = ['.'] ∨ seg = ['.', '.']

/-- A dot segment is made of dots. -/
theorem IsDotSegment.eq_dot {seg : List Char} (h : IsDotSegment seg) : ∀ c ∈ seg, c = '.' := by
  rcases h with rfl | rfl <;> simp

/-- A text that stays within a segment: it holds no slash and ends no path. -/
structure StaysInside (cs : List Char) : Prop where
  slash : '/' ∉ cs
  query : '?' ∉ cs
  fragment : '#' ∉ cs

/-- An escaped text stays inside its segment. -/
theorem staysInside_of_escaped {cs : List Char} (h : Text.Escaped cs) : StaysInside cs :=
  ⟨h.not_mem (by decide) (by decide) (by decide), h.not_mem (by decide) (by decide) (by decide),
    h.not_mem (by decide) (by decide) (by decide)⟩

/-- What holds neither of the marks that end a path belongs to the path. -/
theorem pathText_append {cs : List Char} (hq : '?' ∉ cs) (hf : '#' ∉ cs) (ds : List Char) :
    pathText (cs ++ ds) = cs ++ pathText ds := by
  refine List.takeWhile_append_of_pos fun c hc => ?_
  have hcq : c ≠ '?' := fun he => hq (he ▸ hc)
  have hcf : c ≠ '#' := fun he => hf (he ▸ hc)
  simp [hcq, hcf]

/-- What stays within a segment belongs to the first segment of what follows. -/
theorem pathSegments_append {cs : List Char} (h : StaysInside cs) (ds : List Char) :
    pathSegments (cs ++ ds) = (pathSegments ds).modifyHead (cs ++ ·) := by
  rw [pathSegments, pathText_append h.query h.fragment, Text.fields_prepend h.slash]
  rfl

/-- A slash ends a segment. -/
theorem pathSegments_slash (ds : List Char) : pathSegments ('/' :: ds) = [] :: pathSegments ds := by
  rw [pathSegments, ← List.singleton_append, pathText_append (by decide) (by decide),
    List.singleton_append, Text.fields, if_pos rfl]
  rfl

/-- The mark that ends a path ends its last segment. -/
theorem pathSegments_end {c : Char} (h : c = '?' ∨ c = '#') (ds : List Char) :
    pathSegments (c :: ds) = [[]] := by
  rcases h with rfl | rfl <;> rfl

/-- A character ends the path, ends a segment, or stays inside one. -/
theorem char_cases (c : Char) : (c = '?' ∨ c = '#') ∨ c = '/' ∨ StaysInside [c] := by
  by_cases hend : c = '?' ∨ c = '#'
  · exact .inl hend
  · obtain ⟨hq, hf⟩ := not_or.1 hend
    by_cases hs : c = '/'
    · exact .inr (.inl hs)
    · exact .inr (.inr ⟨by simpa using Ne.symm hs, by simpa using Ne.symm hq, by simpa using Ne.symm hf⟩)

/-- **A text that stays inside lies in the segment that the slashes before it count.** -/
theorem getElem?_pathSegments {before cs : List Char} (hq : '?' ∉ before) (hf : '#' ∉ before)
    (hc : StaysInside cs) (after : List Char) :
    ∃ seg, (pathSegments (before ++ (cs ++ after)))[before.count '/']? = some seg ∧ cs <:+: seg := by
  -- a slash in front moves the segment on by one, any other character only adds to the first
  induction before with
  | nil =>
    obtain ⟨f, fs, hfs⟩ := List.exists_cons_of_ne_nil (Text.fields_ne_nil '/' (pathText after))
    refine ⟨cs ++ f, ?_, (List.prefix_append cs f).isInfix⟩
    rw [List.nil_append, pathSegments_append hc, pathSegments, hfs]
    rfl
  | cons c before ih =>
    rw [List.mem_cons, not_or] at hq hf
    obtain ⟨seg, hseg, hin⟩ := ih hq.2 hf.2
    rcases char_cases c with h | rfl | h
    · exact absurd h (not_or.2 ⟨Ne.symm hq.1, Ne.symm hf.1⟩)
    · refine ⟨seg, ?_, hin⟩
      rw [List.cons_append, pathSegments_slash, List.count_cons_self, List.getElem?_cons_succ, hseg]
    · have hne : c ≠ '/' := by
        rintro rfl
        exact h.slash List.mem_cons_self
      rw [List.cons_append, ← List.singleton_append, pathSegments_append h,
        List.count_cons_of_ne hne, List.getElem?_modifyHead, hseg]
      split
      · exact ⟨[c] ++ seg, rfl, hin.trans (List.suffix_append [c] seg).isInfix⟩
      · exact ⟨seg, rfl, hin⟩

/-! ## Parts of an address -/

/-- A stretch of an expanded address, with its encoding if it was put in. -/
structure Part where
  encoding : Option Encoding
  text : List Char
  deriving DecidableEq, Repr

/-- The text of a marker in an address; nothing for a marker without a value. -/
def written (e : Encoding) (value : Option String) : List Char :=
  (value.bind fun text => e.encode? text.toList).getD []

/-- The parts that tokens expand to behind the literal text `literal`. -/
def parts (scopes : Scopes) (literal : List Char) : List Token → List Part
  | [] => []
  | .text cs :: ts => ⟨none, cs⟩ :: parts scopes (literal ++ cs) ts
  | .unterminated rest _ :: ts => ⟨none, rest⟩ :: parts scopes literal ts
  | .marker body offset :: ts =>
    ⟨some (.forUrl literal offset),
      written (.forUrl literal offset) (markerText scopes body)⟩ :: parts scopes literal ts

/-- The texts of parts in order. -/
def join (ps : List Part) : List Char := ps.flatMap Part.text

/-- A part that is put into the path. -/
def Part.InPath (p : Part) : Prop := p.encoding = some .pathSegment

instance (p : Part) : Decidable p.InPath := inferInstanceAs (Decidable (_ = _))

/-- The texts of parts in order, with nothing put into the path. -/
def bare (ps : List Part) : List Char := join (ps.filter fun p => !decide p.InPath)

/-- What may be put into a segment: nothing, or an escaped text that is not of dots alone. -/
def Fills (cs : List Char) : Prop := cs = [] ∨ Text.Escaped cs ∧ ∃ c ∈ cs, c ≠ '.'

/-- A value that a segment takes is put in as nothing or with a character that is no dot. -/
theorem fills_of_encode? {cs out : List Char} (h : Encoding.encode? .pathSegment cs = some out) :
    Fills out := by
  unfold Encoding.encode? at h
  dsimp only at h
  split at h
  · cases h
  · rename_i hd
    obtain rfl := Option.some.inj h
    cases cs with
    | nil => exact .inl rfl
    | cons c cs =>
      refine .inr ⟨Text.encodeSegment_escaped _, Text.exists_encodeSegment_ne_dot ?_⟩
      have hall : (c :: cs).all (· == '.') = false := by simpa [isDots] using hd
      obtain ⟨d, hm, hne⟩ := List.all_eq_false.1 hall
      exact ⟨d, hm, by simpa using hne⟩

/-- **An expanded address is made of its parts,** and what is put into its path fills a segment. -/
theorem expandUrlTokens_parts {scopes : Scopes} {literal out : List Char} {ts : List Token}
    (h : expandUrlTokens scopes literal ts = .ok out) :
    out = join (parts scopes literal ts) ∧
      ∀ p ∈ parts scopes literal ts, p.InPath → Fills p.text := by
  -- the encoding of a marker depends on the literal text before it, which grows on the way
  induction ts generalizing literal out with
  | nil => exact ⟨(Except.ok.inj h).symm, nofun⟩
  | cons t ts ih =>
    cases t with
    | text cs =>
      obtain ⟨rest, hrest, rfl⟩ := Except.map_eq_ok.1 h
      obtain ⟨rfl, hf⟩ := ih hrest
      exact ⟨rfl, List.forall_mem_cons.2 ⟨nofun, hf⟩⟩
    | unterminated cs offset =>
      obtain ⟨rest, hrest, rfl⟩ := Except.map_eq_ok.1 h
      obtain ⟨rfl, hf⟩ := ih hrest
      exact ⟨rfl, List.forall_mem_cons.2 ⟨nofun, hf⟩⟩
    | marker body offset =>
      rw [expandUrlTokens] at h
      rw [parts]
      cases hv : markerText scopes body with
      | none =>
        rw [hv] at h
        obtain ⟨rfl, hf⟩ := ih h
        exact ⟨rfl, List.forall_mem_cons.2 ⟨fun _ => .inl rfl, hf⟩⟩
      | some text =>
        simp only [hv] at h
        cases he : (Encoding.forUrl literal offset).encode? text.toList with
        | none =>
          rw [he] at h
          cases h
        | some encoded =>
          rw [he] at h
          obtain ⟨rest, hrest, rfl⟩ := Except.map_eq_ok.1 h
          obtain ⟨rfl, hf⟩ := ih hrest
          have hw : written (.forUrl literal offset) (some text) = encoded := by
            rw [written, Option.bind_some, he, Option.getD_some]
          rw [hw]
          refine ⟨rfl, List.forall_mem_cons.2 ⟨fun hin => ?_, hf⟩⟩
          have hp : Encoding.forUrl literal offset = .pathSegment := Option.some.inj hin
          rw [hp] at he
          exact fills_of_encode? he

/-! ## Addresses with nothing put in -/

/-- Two segments have the same dots: they are one text, unless the first is not of dots alone. -/
def SameDots (seg bare : List Char) : Prop := seg = bare ∨ ∃ c ∈ seg, c ≠ '.'

/-- What stands before both segments keeps them alike. -/
theorem SameDots.append {seg bare : List Char} (h : SameDots seg bare) (cs : List Char) :
    SameDots (cs ++ seg) (cs ++ bare) := by
  rcases h with rfl | ⟨c, hc, hne⟩
  · exact .inl rfl
  · exact .inr ⟨c, List.mem_append_right cs hc, hne⟩

/-- Two addresses have the same dots if their segments have. -/
def HaveSameDots (url bare : List Char) : Prop :=
  List.Forall₂ SameDots (pathSegments url) (pathSegments bare)

/-- Texts within a segment, put in front of addresses, change only their first segments. -/
theorem HaveSameDots.prepend {url bare cs ds : List Char} (h : HaveSameDots url bare)
    (hc : StaysInside cs) (hd : StaysInside ds)
    (hs : ∀ seg rest, SameDots seg rest → SameDots (cs ++ seg) (ds ++ rest)) :
    HaveSameDots (cs ++ url) (ds ++ bare) := by
  rw [HaveSameDots, pathSegments_append hc, pathSegments_append hd]
  rw [HaveSameDots] at h
  generalize pathSegments url = us at h ⊢
  generalize pathSegments bare = bs at h ⊢
  cases h with
  | nil => exact .nil
  | cons hfirst hrest => exact .cons (hs _ _ hfirst) hrest

/-- The same text in front of both keeps their dots the same. -/
theorem HaveSameDots.append {url bare : List Char} (h : HaveSameDots url bare) (cs : List Char) :
    HaveSameDots (cs ++ url) (cs ++ bare) := by
  induction cs with
  | nil => exact h
  | cons c cs ih =>
    rcases char_cases c with hc | rfl | hc
    · rw [HaveSameDots, List.cons_append, List.cons_append, pathSegments_end hc, pathSegments_end hc]
      exact .cons (.inl rfl) .nil
    · rw [HaveSameDots, List.cons_append, List.cons_append, pathSegments_slash, pathSegments_slash]
      exact .cons (.inl rfl) ih
    · exact ih.prepend hc hc fun _ _ hs => hs.append [c]

/-- What fills a segment keeps the dots of the address without it. -/
theorem HaveSameDots.put {url bare cs : List Char} (h : HaveSameDots url bare) (hf : Fills cs) :
    HaveSameDots (cs ++ url) bare := by
  rcases hf with rfl | ⟨he, c, hc, hne⟩
  · exact h
  · have hnil : StaysInside [] := ⟨by simp, by simp, by simp⟩
    have hput := h.prepend (staysInside_of_escaped he) hnil
      fun seg _ _ => .inr ⟨c, List.mem_append_left seg hc, hne⟩
    exact hput

/-- **An address has the dots that it has with nothing put into its path.** -/
theorem haveSameDots_bare {ps : List Part} (h : ∀ p ∈ ps, p.InPath → Fills p.text) :
    HaveSameDots (join ps) (bare ps) := by
  induction ps with
  | nil => exact .cons (.inl rfl) .nil
  | cons p ps ih =>
    obtain ⟨hp, hps⟩ := List.forall_mem_cons.1 h
    rw [join, List.flatMap_cons]
    by_cases hin : p.InPath
    · rw [bare, List.filter_cons_of_neg (by simpa using hin)]
      exact (ih hps).put (hp hin)
    · rw [bare, List.filter_cons_of_pos (by simpa using hin), join, List.flatMap_cons]
      exact (ih hps).append p.text

/-- A dot segment of an address is one of the address with the same dots. -/
theorem HaveSameDots.getElem? {url bare : List Char} (h : HaveSameDots url bare) {i : Nat}
    {seg : List Char} (hs : (pathSegments url)[i]? = some seg) (hd : IsDotSegment seg) :
    (pathSegments bare)[i]? = some seg := by
  obtain ⟨hlen, hall⟩ := List.forall₂_iff_get.1 h
  obtain ⟨hi, hget⟩ := List.getElem?_eq_some_iff.1 hs
  have hib : i < (pathSegments bare).length := hlen ▸ hi
  have hsame : SameDots seg (pathSegments bare)[i] := hget ▸ hall i hi hib
  rcases hsame with heq | ⟨c, hc, hne⟩
  · rw [List.getElem?_eq_getElem hib, ← heq]
  · exact absurd (hd.eq_dot c hc) hne

/-! ## Expanded addresses -/

/-- **No dot segment is made by what is put into the path of an address.**  A marker that is put
into the path as some text lies in a segment that is no dot segment, if no `?` or `#` stands before
it; and every dot segment of the address is a segment, in the same place, of the address with
nothing put into its path. -/
theorem expandUrl_dotSegments {template : String} {scopes : Scopes} {url : String}
    (hu : expandUrl template scopes = .ok url) :
    url.toList = join (parts scopes [] (scan template)) ∧
    (∀ before p after, parts scopes [] (scan template) = before ++ p :: after → p.InPath →
      p.text ≠ [] → '?' ∉ join before → '#' ∉ join before →
      ∃ seg, (pathSegments url.toList)[(join before).count '/']? = some seg ∧ p.text <:+: seg ∧
        ¬IsDotSegment seg) ∧
    ∀ (i : Nat) (seg : List Char), (pathSegments url.toList)[i]? = some seg → IsDotSegment seg →
      (pathSegments (bare (parts scopes [] (scan template))))[i]? = some seg := by
  obtain ⟨out, hout, rfl⟩ := Except.map_eq_ok.1 hu
  obtain ⟨hjoin, hfills⟩ := expandUrlTokens_parts hout
  rw [String.toList_ofList]
  refine ⟨hjoin, ?_, ?_⟩
  · intro before p after hsplit hin hne hq hf
    have hp : p ∈ parts scopes [] (scan template) :=
      hsplit ▸ List.mem_append_right before List.mem_cons_self
    obtain ⟨he, c, hc, hdot⟩ := (hfills p hp hin).resolve_left hne
    have hout : out = join before ++ (p.text ++ join after) := by
      rw [hjoin, hsplit, join, List.flatMap_append, List.flatMap_cons]
      rfl
    obtain ⟨seg, hseg, htext⟩ := getElem?_pathSegments hq hf (staysInside_of_escaped he) (join after)
    rw [hout]
    exact ⟨seg, hseg, htext, fun hd => hdot (hd.eq_dot c (htext.subset hc))⟩
  · intro i seg hs hd
    rw [hjoin] at hs
    exact (haveSameDots_bare hfills).getElem? hs hd

/-- A dot in front of a value that is not empty makes no dot segment. -/
theorem expandUrl_dot_before_value :
    expandUrl "http://h/.${args.a}" (.forInvocation (.obj [("a", .str "b")]) .null) =
        .ok "http://h/.b" ∧
      ∃ seg, (pathSegments "http://h/.b".toList)[3]? = some seg ∧ ['b'] <:+: seg ∧
        ¬IsDotSegment seg := by
  have hu : expandUrl "http://h/.${args.a}" (.forInvocation (.obj [("a", .str "b")]) .null) =
      .ok "http://h/.b" := by
    decide +kernel
  have hparts : parts (.forInvocation (.obj [("a", .str "b")]) .null) []
      (scan "http://h/.${args.a}") =
        [⟨none, "http://h/.".toList⟩] ++ ⟨some .pathSegment, ['b']⟩ :: [] := by
    decide +kernel
  obtain ⟨-, hsegment, -⟩ := expandUrl_dotSegments hu
  exact ⟨hu, hsegment _ _ _ hparts rfl (by decide) (by decide) (by decide)⟩

/-- **A value that is empty or absent leaves a dot segment standing,** or lets literal dots close up
to one, though the marker is put into the path and the address is one that the checks accept. -/
theorem dotSegment_of_nothing :
    Check.address "http://h/a/.${args.x}" "url" = .ok () ∧
      expandUrl "http://h/a/.${args.x}" (.forInvocation (.obj []) .null) = .ok "http://h/a/." ∧
      parts (.forInvocation (.obj []) .null) [] (scan "http://h/a/.${args.x}") =
        [⟨none, "http://h/a/.".toList⟩, ⟨some .pathSegment, []⟩] ∧
      (pathSegments "http://h/a/.".toList)[4]? = some ['.'] ∧
      Check.address "http://h/a/.${args.x}." "url" = .ok () ∧
      expandUrl "http://h/a/.${args.x}." (.forInvocation (.obj [("x", .str "")]) .null) =
        .ok "http://h/a/.." ∧
      (pathSegments "http://h/a/..".toList)[4]? = some ['.', '.'] := by
  decide +kernel

end Template
end AgentTool
