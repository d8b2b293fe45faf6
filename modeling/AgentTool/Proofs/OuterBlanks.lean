import AgentTool.Proofs.VerbatimMarkers
import AgentTool.Request

/-!
# Blanks around addresses

An address is checked without the blanks around it, and it is read without the blanks around what it
expands to.  In between its template is expanded with them, and where a marker stands is told from
the template as it is written:

| blanks | the template expands |
| --- | --- |
| behind an address | as without them, with the blanks behind (`expanded?_append`) |
| before an address that opens with a scheme | as without them, with the blanks in front |
| before an address that opens with a marker | as if this marker stood in a path |

A value in a path is escaped, and only letters stay what they are.  So blanks before the base of an
address do not matter if its value is made of letters alone, and with any other value the request is
refused, whatever else the address holds (`Webhook.prepare_trimmed`).
-/

namespace AgentTool

/-- A changed result is there if the result is. -/
theorem Except.toOption_map {ε α β : Type} (f : α → β) (x : Except ε α) :
    (x.map f).toOption = x.toOption.map f := by
  cases x <;> rfl

namespace Text

/-! ## What is written of letters -/

/-- The bytes of a text tell the text. -/
theorem utf8_injective {cs ds : List Char} (h : utf8 cs = utf8 ds) : cs = ds := by
  have hs : (String.ofList cs).toByteArray = (String.ofList ds).toByteArray := by
    rw [String.toByteArray_ofList, String.toByteArray_ofList, List.utf8Encode, List.utf8Encode]
    exact congrArg List.toByteArray h
  exact String.ofList_injective (String.toByteArray_inj.1 hs)

/-- Letters are written as they are. -/
theorem encodeSegment_of_letters {cs : List Char} (h : ∀ c ∈ cs, c.isAlpha = true) :
    encodeSegment cs = cs := by
  induction cs with
  | nil => rfl
  | cons c cs ih =>
    obtain ⟨hc, hcs⟩ := List.forall_mem_cons.1 h
    have hn : c.toNat < 128 := by
      have hr : c.isAlpha = (decide (65 ≤ c.val ∧ c.val ≤ 90) ||
        decide (97 ≤ c.val) && decide (c.val ≤ 122)) := rfl
      rw [hr] at hc
      simp only [Bool.or_eq_true, Bool.and_eq_true, decide_eq_true_eq, UInt32.le_iff_toNat_le] at hc
      change (65 ≤ c.toNat ∧ c.toNat ≤ 90) ∨ (97 ≤ c.toNat ∧ c.toNat ≤ 122) at hc
      omega
    have hb : isUnreserved (UInt8.ofNat c.toNat) = true := by
      have hlt : UInt8.ofNat c.toNat < 128 := by
        rw [UInt8.lt_iff_toNat_lt, UInt8.toNat_ofNat']
        change c.toNat % 256 < 128
        omega
      have ha : isAlphanumByte (UInt8.ofNat c.toNat) = true := by
        rw [isAlphanumByte, ofNat_byte hn, decide_eq_true hlt, Char.isAlphanum, hc]
        rfl
      rw [isUnreserved, ha]
      rfl
    have hw : segmentByte (UInt8.ofNat c.toNat) = [c] := by
      rw [segmentByte, if_pos hb, ofNat_byte hn]
    have ih := ih hcs
    rw [encodeSegment] at ih
    rw [encodeSegment, utf8_cons_ascii hn, List.flatMap_cons, hw, ih, List.singleton_append]

/-- **Only letters are written as letters.** -/
theorem encodeSegment_letters {cs : List Char} :
    (∀ c ∈ encodeSegment cs, c.isAlpha = true) ↔ ∀ c ∈ cs, c.isAlpha = true := by
  constructor
  · intro h
    have hs : segmentBytes (encodeSegment (encodeSegment cs)) = segmentBytes (encodeSegment cs) := by
      rw [encodeSegment_of_letters h]
    rw [segmentBytes_encodeSegment, segmentBytes_encodeSegment] at hs
    rwa [utf8_injective hs] at h
  · intro h
    rwa [encodeSegment_of_letters h]

/-- A character that is kept in a path, or written for a byte, is visible. -/
theorem visible_of_isKept {c : Char} (hc : isKept c = true ∨ Address.isHex c = true) :
    36 < c.toNat ∧ c.toNat < 127 := by
  have hk : isKept c = ((decide (65 ≤ c.val ∧ c.val ≤ 90) ||
    decide (97 ≤ c.val) && decide (c.val ≤ 122) || decide (48 ≤ c.val) && decide (c.val ≤ 57)) ||
    ['-', '_', '.', '~', '*', '+'].contains c) := rfl
  have hx : Address.isHex c = (decide (48 ≤ c.val) && decide (c.val ≤ 57) ||
    decide (97 ≤ c.val) && decide (c.val ≤ 102) ||
    decide (65 ≤ c.val) && decide (c.val ≤ 70)) := rfl
  rw [hk, hx] at hc
  simp only [Bool.or_eq_true, Bool.and_eq_true, decide_eq_true_eq, UInt32.le_iff_toNat_le,
    List.contains_cons, List.contains_nil, beq_iff_eq] at hc
  change ((((65 ≤ c.toNat ∧ c.toNat ≤ 90) ∨ (97 ≤ c.toNat ∧ c.toNat ≤ 122)) ∨
    (48 ≤ c.toNat ∧ c.toNat ≤ 57)) ∨ c = '-' ∨ c = '_' ∨ c = '.' ∨ c = '~' ∨ c = '*' ∨ c = '+' ∨
    false = true) ∨ ((48 ≤ c.toNat ∧ c.toNat ≤ 57) ∨ (97 ≤ c.toNat ∧ c.toNat ≤ 102)) ∨
    (65 ≤ c.toNat ∧ c.toNat ≤ 70) at hc
  rcases hc with (h | rfl | rfl | rfl | rfl | rfl | rfl | h) | h
  · omega
  · decide
  · decide
  · decide
  · decide
  · decide
  · decide
  · cases h
  · omega

/-- What is written in a path is visible. -/
theorem Escaped.visible {cs : List Char} (h : Escaped cs) :
    ∀ c ∈ cs, 36 < c.toNat ∧ c.toNat < 127 := by
  induction h with
  | nil => exact nofun
  | kept hc _ ih => exact List.forall_mem_cons.2 ⟨visible_of_isKept (.inl hc), ih⟩
  | triplet hh hl _ ih =>
    exact List.forall_mem_cons.2 ⟨by decide, List.forall_mem_cons.2 ⟨visible_of_isKept (.inr hh),
      List.forall_mem_cons.2 ⟨visible_of_isKept (.inr hl), ih⟩⟩⟩

/-- A text opens what is left of it when characters that it does not hold are taken away on both
sides. -/
theorem prefix_of_stripped {p : Char → Bool} {cs : List Char} (hne : cs ≠ [])
    (h : ∀ c ∈ cs, p c = false) (ds : List Char) :
    cs <+: (((cs ++ ds).dropWhile p).reverse.dropWhile p).reverse := by
  have hl : (cs ++ ds).dropWhile p = cs ++ ds := by
    obtain ⟨c, cs, rfl⟩ := List.exists_cons_of_ne_nil hne
    rw [List.cons_append, List.dropWhile_cons_of_neg (by simp [h c])]
  have hr : (cs ++ ds).rdropWhile p ++ (cs ++ ds).rtakeWhile p = cs ++ ds :=
    List.rdropWhile_append_rtakeWhile
  rw [hl, ← List.rdropWhile]
  rcases List.append_eq_append_iff.1 hr with
    ⟨mid, hm, ht⟩ | ⟨mid, hm, -⟩
  · cases mid with
    | nil => exact ⟨[], (List.append_nil cs).trans (hm.trans (List.append_nil _))⟩
    | cons c mid =>
      have hc : p c = true := List.mem_rtakeWhile_imp (by rw [ht]; simp)
      rw [h c (by rw [hm]; simp)] at hc
      cases hc
  · exact ⟨mid, hm.symm⟩

end Text

namespace Url

/-- The name of a scheme of the web is made of letters. -/
theorem letters_of_readScheme? {cs : List Char} {secure : Bool} (h : readScheme? cs = some secure) :
    ∀ c ∈ cs, c.isAlpha = true := by
  have hletters : ∀ name : List Char, name.all Char.isAlpha = true →
      Text.lowerAscii (String.ofList cs) = String.ofList name → ∀ c ∈ cs, c.isAlpha = true := by
    intro name hname he c hc
    have hm : cs.map Char.toLower = name := by
      rw [Text.lowerAscii, String.toList_ofList] at he
      exact String.ofList_injective he
    have hl : c.toLower.isAlpha = true := List.all_eq_true.1 hname _ (hm ▸ List.mem_map_of_mem hc)
    cases hn : c.isAlpha with
    | true => rfl
    | false =>
      rw [(Check.toLower_eq_iff hn).2 rfl, hn] at hl
      cases hl
  unfold readScheme? at h
  split at h
  · rename_i he
    exact hletters ['h', 't', 't', 'p'] (by decide) he
  · rename_i he
    exact hletters ['h', 't', 't', 'p', 's'] (by decide) he
  · cases h

/-- **Nothing is read from an address that opens with an escaped text other than letters.** -/
theorem parse?_of_escaped {cs : List Char} (he : Text.Escaped cs) (hn : ∃ c ∈ cs, c.isAlpha = false)
    (ds : List Char) : parse? (String.ofList (Text.trim (cs ++ ds))) = none := by
  obtain ⟨c, hc, hc'⟩ := hn
  have hne : cs ≠ [] := List.ne_nil_of_mem hc
  have hblank : ∀ c ∈ cs, Text.isBlank c = false := fun c hc => by
    obtain ⟨hlo, hhi⟩ := he.visible c hc
    simp [Text.isBlank, Text.inRanges, Text.blankRanges]
    omega
  have hclean : cs <+: clean (Text.trim (cs ++ ds)) := by
    obtain ⟨rest, hr⟩ : cs <+: Text.trim (cs ++ ds) := Text.prefix_of_stripped hne hblank ds
    rw [← hr, clean]
    have hp := Text.prefix_of_stripped (p := fun c => decide (c.toNat ≤ 32)) hne
      (fun c hc => decide_eq_false (by have := he.visible c hc; omega)) rest
    have hf := hp.filter fun c => c != '\t' && c != '\n' && c != '\r'
    rwa [List.filter_eq_self.2] at hf
    intro d hd
    have hlo := (he.visible d hd).1
    simp only [Bool.and_eq_true, bne_iff_ne]
    refine ⟨⟨?_, ?_⟩, ?_⟩ <;> rintro rfl <;> revert hlo <;> decide
  obtain ⟨rest, hr⟩ := hclean
  have hcolon : ':' ∉ cs := he.not_mem (by decide) (by decide) (by decide)
  rw [parse?, String.toList_ofList, ← hr, Text.breakAt_prepend hcolon]
  cases hs : readScheme? (cs ++ (Text.breakAt ':' rest).1) with
  | none => simp [hs]
  | some secure =>
    rw [letters_of_readScheme? hs c (List.mem_append_left _ hc)] at hc'
    cases hc'

end Url

namespace Template

variable {scopes : Scopes} {blanks : List Char}

/-! ## Addresses of tokens -/

/-- The token of a text is expanded to the text in front. -/
theorem expandUrlTokens_textToken (scopes : Scopes) (literal cs : List Char) (ts : List Token) :
    expandUrlTokens scopes literal (textToken cs ++ ts) =
      (expandUrlTokens scopes (literal ++ cs) ts).map (cs ++ ·) := by
  unfold textToken
  split
  · rename_i h
    rw [List.isEmpty_iff.1 h, List.append_nil, List.nil_append]
    cases expandUrlTokens scopes literal ts <;> rfl
  · rfl

/-- Text alone is its own address. -/
theorem expandUrlTokens_text (cs literal : List Char) :
    expandUrlTokens scopes literal (textToken cs) = .ok cs := by
  have h := expandUrlTokens_textToken scopes literal cs []
  rwa [List.append_nil, expandUrlTokens, Except.map, List.append_nil] at h

/-- Tokens without markers behind all others stand behind their address. -/
theorem expandUrlTokens_append {us : List Token} {cs : List Char}
    (hu : ∀ literal, expandUrlTokens scopes literal us = .ok cs) (literal : List Char)
    (ts : List Token) :
    expandUrlTokens scopes literal (ts ++ us) =
      (expandUrlTokens scopes literal ts).map (· ++ cs) := by
  have hmap : ∀ (x : Except DotSegment (List Char)) (lead : List Char),
      (x.map (· ++ cs)).map (lead ++ ·) = (x.map (lead ++ ·)).map (· ++ cs) := fun x lead => by
    cases x with
    | error d => rfl
    | ok out => simp only [Except.map, List.append_assoc]
  induction ts generalizing literal with
  | nil => exact hu literal
  | cons t ts ih =>
    rw [List.cons_append]
    cases t with
    | text text => rw [expandUrlTokens, expandUrlTokens, ih, hmap]
    | unterminated rest place => rw [expandUrlTokens, expandUrlTokens, ih, hmap]
    | marker body place =>
      rw [expandUrlTokens, expandUrlTokens]
      cases markerText scopes body with
      | none => exact ih literal
      | some text =>
        dsimp only
        cases (Encoding.forUrl literal place).encode? text.toList with
        | none => rfl
        | some encoded =>
          dsimp only
          rw [ih, hmap]

/-- The text that a marker stands for, which is empty without a value. -/
def markerChars (scopes : Scopes) (body : List Char) : List Char :=
  ((markerText scopes body).getD "").toList

/-- A marker puts in its encoded text, or refuses the address. -/
theorem expandUrlTokens_marker (literal body : List Char) (place : Nat) (ts : List Token) :
    (expandUrlTokens scopes literal (.marker body place :: ts)).toOption =
      ((Encoding.forUrl literal place).encode? (markerChars scopes body)).bind fun encoded =>
        (expandUrlTokens scopes literal ts).toOption.map (encoded ++ ·) := by
  rw [expandUrlTokens, markerChars]
  cases markerText scopes body with
  | none =>
    have hn : (Encoding.forUrl literal place).encode? [] = some [] := by
      cases Encoding.forUrl literal place <;> rfl
    rw [Option.getD_none, show "".toList = [] from rfl, hn, Option.bind_some]
    exact Option.map_id_apply.symm
  | some text =>
    dsimp only
    rw [Option.getD_some]
    cases (Encoding.forUrl literal place).encode? text.toList with
    | none => rfl
    | some encoded => cases expandUrlTokens scopes literal ts <;> rfl

/-- Blanks hold no character that tells where a marker stands. -/
theorem notMem_blanks (hb : ∀ c ∈ blanks, Text.isBlank c = true) {c : Char}
    (hc : Text.isBlank c = false) : c ∉ blanks := fun hm => by
  rw [hb c hm] at hc
  cases hc

/-- Blanks before the literal text do not change where a marker stands, unless they move it from the
start. -/
theorem forUrl_prepend (hb : ∀ c ∈ blanks, Text.isBlank c = true) {p q : Nat} (hpq : p = 0 ↔ q = 0)
    (literal : List Char) : Encoding.forUrl (blanks ++ literal) p = Encoding.forUrl literal q := by
  have hmarks : (blanks.any fun c => c == '?' || c == '#') = false := by
    refine List.any_eq_false.2 fun c hc hm => ?_
    simp only [Bool.or_eq_true, beq_iff_eq] at hm
    rcases hm with rfl | rfl
    · exact notMem_blanks hb (by decide) hc
    · exact notMem_blanks hb (by decide) hc
  unfold Encoding.forUrl
  rw [List.any_append, hmarks, Bool.false_or, Text.breakOn?_prepend (notMem_blanks hb (by decide))]
  simp only [hpq]
  cases Text.breakOn? [':', '/', '/'] literal <;> rfl

/-- Tokens that stand alike have one address behind literal texts that differ in blanks before
them. -/
theorem expandUrlTokens_alike (hb : ∀ c ∈ blanks, Text.isBlank c = true) {ts us : List Token}
    (h : List.Forall₂ Token.Alike ts us) (literal : List Char) :
    (expandUrlTokens scopes (blanks ++ literal) ts).toOption =
      (expandUrlTokens scopes literal us).toOption := by
  induction h generalizing literal with
  | nil => rfl
  | cons hab _ ih =>
    cases hab with
    | text =>
      rw [expandUrlTokens, expandUrlTokens, Except.toOption_map, Except.toOption_map,
        List.append_assoc, ih]
    | unterminated =>
      rw [expandUrlTokens, expandUrlTokens, Except.toOption_map, Except.toOption_map, ih]
    | marker hpq =>
      rw [expandUrlTokens_marker, expandUrlTokens_marker, forUrl_prepend hb hpq, ih]

/-! ## Addresses of templates -/

/-- The address that a template expands to, if it is not refused. -/
def expanded? (scopes : Scopes) (cs : List Char) : Option (List Char) :=
  (expandUrlTokens scopes [] (scanFrom 0 cs)).toOption

/-- **Blanks behind a template stand behind its address.** -/
theorem expanded?_append (ha : ∀ c ∈ blanks, Text.isBlank c = true) (cs : List Char) :
    expanded? scopes (cs ++ blanks) = (expanded? scopes cs).map (· ++ blanks) := by
  have hopen : ∀ rest place literal,
      expandUrlTokens scopes literal [.unterminated rest place] = .ok rest :=
    fun rest place literal => congrArg Except.ok (List.append_nil rest)
  have hmap : ∀ (x : Except DotSegment (List Char)) (last : List Char),
      (x.map (· ++ (last ++ blanks))).toOption = (x.map (· ++ last)).toOption.map (· ++ blanks) :=
    fun x last => by
      cases x with
      | error d => rfl
      | ok out => exact congrArg some (List.append_assoc out last blanks).symm
  obtain ⟨ts, ⟨text, hs, hsa⟩ | ⟨rest, place, hs, hsa⟩⟩ := scanFrom_append
    (notMem_blanks ha (by decide)) (notMem_blanks ha (by decide)) (notMem_blanks ha (by decide)) 0 cs
  · rw [expanded?, expanded?, hs, hsa, expandUrlTokens_append (expandUrlTokens_text text),
      expandUrlTokens_append (expandUrlTokens_text (text ++ blanks)), hmap]
  · rw [expanded?, expanded?, hs, hsa, expandUrlTokens_append (hopen _ _),
      expandUrlTokens_append (hopen _ _), hmap]

/-- The address of a template that goes on behind its first text with a marker. -/
theorem expanded?_marker {cs text inner body rest : List Char}
    (hb : breakMarker cs = (text, some inner)) (hc : closeFrom .outside inner = some (body, rest)) :
    expanded? scopes cs =
      (((Encoding.forUrl text (Text.utf8Size text)).encode? (markerChars scopes body)).bind
        fun encoded => (expandUrlTokens scopes text
          (scanFrom (Text.utf8Size text + 3 + Text.utf8Size body) rest)).toOption.map
            (encoded ++ ·)).map (text ++ ·) := by
  rw [expanded?, scanFrom_marker hb hc, expandUrlTokens_textToken, Except.toOption_map,
    List.nil_append, Nat.zero_add, expandUrlTokens_marker]

/-- Behind the start of a template, blanks before it do not change the address of what follows. -/
theorem expandUrlTokens_prepend (scopes : Scopes) (hb : ∀ c ∈ blanks, Text.isBlank c = true)
    (text body rest : List Char) :
    (expandUrlTokens scopes (blanks ++ text)
      (scanFrom (Text.utf8Size (blanks ++ text) + 3 + Text.utf8Size body) rest)).toOption =
    (expandUrlTokens scopes text
      (scanFrom (Text.utf8Size text + 3 + Text.utf8Size body) rest)).toOption :=
  expandUrlTokens_alike hb (scanFrom_alike (by omega) (by omega) rest) text

/-- **Blanks before a template stand before its address,** unless a marker opens it. -/
theorem expanded?_prepend (hb : ∀ c ∈ blanks, Text.isBlank c = true) {cs : List Char}
    (hm : blanks = [] ∨ ∀ body ts, scanFrom 0 cs ≠ .marker body 0 :: ts) :
    expanded? scopes (blanks ++ cs) = (expanded? scopes cs).map (blanks ++ ·) := by
  have hd : '$' ∉ blanks := notMem_blanks hb (by decide)
  have hbreak := breakMarker_prepend hd cs
  rcases hcs : breakMarker cs with ⟨text, _ | inner⟩
  · rw [hcs] at hbreak
    rw [expanded?, expanded?, scanFrom_text hbreak, scanFrom_text hcs, expandUrlTokens_text,
      expandUrlTokens_text]
    rfl
  rw [hcs] at hbreak
  cases hc : closeFrom .outside inner with
  | none =>
    rw [expanded?, expanded?, scanFrom_unterminated hbreak hc, scanFrom_unterminated hcs hc,
      expandUrlTokens_textToken, expandUrlTokens_textToken]
    exact congrArg some (List.append_assoc blanks text _)
  | some cut =>
    obtain ⟨body, rest⟩ := cut
    -- the marker stands at the start of both templates or of none
    have hplace : Text.utf8Size (blanks ++ text) = 0 ↔ Text.utf8Size text = 0 := by
      rcases hm with rfl | hm
      · rfl
      · have hne : text ≠ [] := by
          rintro rfl
          exact hm body _ (scanFrom_marker hcs hc)
        exact iff_of_false (fun h => hne (List.append_eq_nil_iff.1 (utf8Size_eq_zero h)).2)
          fun h => hne (utf8Size_eq_zero h)
    rw [expanded?_marker hbreak hc, expanded?_marker hcs hc, forUrl_prepend hb hplace,
      expandUrlTokens_prepend scopes hb, Option.map_map]
    refine congrArg (Option.map · _) (funext fun out => ?_)
    exact List.append_assoc blanks text out

/-- **Behind blanks a marker that opens a template is escaped** as a segment of a path; what follows
it has one address with the blanks and without them. -/
theorem expanded?_displaced (scopes : Scopes) (hb : ∀ c ∈ blanks, Text.isBlank c = true)
    (hne : blanks ≠ []) {cs body : List Char} {ts : List Token}
    (hm : scanFrom 0 cs = .marker body 0 :: ts) :
    ∃ tail? : Option (List Char),
      expanded? scopes cs = tail?.map (markerChars scopes body ++ ·) ∧
      expanded? scopes (blanks ++ cs) =
        ((Encoding.pathSegment.encode? (markerChars scopes body)).bind fun encoded =>
          tail?.map (encoded ++ ·)).map (blanks ++ ·) := by
  have hd : '$' ∉ blanks := notMem_blanks hb (by decide)
  have hbreak := breakMarker_prepend hd cs
  obtain ⟨inner, rest, hcs, hc⟩ := breakMarker_of_marker hm
  rw [hcs, List.append_nil] at hbreak
  refine ⟨(expandUrlTokens scopes [] (scanFrom (Text.utf8Size [] + 3 + Text.utf8Size body)
    rest)).toOption, ?_, ?_⟩
  · have hstart : Encoding.forUrl [] (Text.utf8Size []) = .verbatim := rfl
    rw [expanded?_marker hcs hc, hstart, Encoding.encode?, Option.bind_some]
    exact Option.map_id_apply
  · have hpath : Encoding.forUrl blanks (Text.utf8Size blanks) = .pathSegment := by
      have hp := forUrl_prepend (p := Text.utf8Size blanks) (q := 1) hb
        (iff_of_false (fun h => hne (utf8Size_eq_zero h)) Nat.one_ne_zero) []
      rwa [List.append_nil] at hp
    have htail := expandUrlTokens_prepend scopes hb [] body rest
    rw [List.append_nil] at htail
    rw [expanded?_marker hbreak hc, hpath, htail]

/-- Letters stay what they are in a path. -/
theorem encode?_of_letters {cs : List Char} (h : ∀ c ∈ cs, c.isAlpha = true) :
    Encoding.pathSegment.encode? cs = some cs := by
  have hd : isDots cs = false := by
    cases cs with
    | nil => rfl
    | cons c cs =>
      have hc : c ≠ '.' := by
        rintro rfl
        cases h '.' List.mem_cons_self
      simp [isDots, hc]
  rw [Encoding.encode?, hd, Text.encodeSegment_of_letters h]
  rfl

/-- What is written of a value with other characters is escaped, and has other characters. -/
theorem encode?_of_others {cs encoded : List Char} (h : ∃ c ∈ cs, c.isAlpha = false)
    (he : Encoding.pathSegment.encode? cs = some encoded) :
    Text.Escaped encoded ∧ ∃ c ∈ encoded, c.isAlpha = false := by
  rw [Encoding.encode?] at he
  split at he
  · cases he
  · obtain rfl := Option.some.inj he
    refine ⟨Text.encodeSegment_escaped cs, ?_⟩
    by_contra hn
    obtain ⟨c, hc, hother⟩ := h
    simp only [not_exists, not_and, Bool.not_eq_false] at hn
    rw [Text.encodeSegment_letters.1 hn c hc] at hother
    cases hother

end Template

/-! ## Requests -/

namespace Webhook

open Template (expanded? markerChars)

/-- The blanks before the address of a webhook displace its base: the address opens with a marker
behind them, of which the value is not made of letters alone. -/
def DisplacesBase (w : Webhook) (scopes : Scopes) : Prop :=
  Text.trimLeft w.url.toList ≠ w.url.toList ∧
    ∃ body ts, Template.scan (Text.trimString w.url) = .marker body 0 :: ts ∧
      ∃ c ∈ markerChars scopes body, c.isAlpha = false

/-- The address of a request is read from the trimmed expansion. -/
theorem address?_eq (w : Webhook) (scopes : Scopes) :
    w.address? scopes =
      (expanded? scopes w.url.toList).bind fun cs => Url.parse? (String.ofList (Text.trim cs)) := by
  have he : (Template.expandUrl w.url scopes).toOption =
      (expanded? scopes w.url.toList).map String.ofList :=
    Except.toOption_map String.ofList _
  rw [address?, Reading.standard_address, he]
  cases expanded? scopes w.url.toList with
  | none => rfl
  | some cs => simp [Text.trimString]

/-- A request depends on the address of its webhook only through what this expands to. -/
theorem prepare_congr {w : Webhook} {scopes : Scopes} {url : String}
    (h : w.address? scopes = { w with url }.address? scopes) :
    w.prepare scopes = { w with url }.prepare scopes := by
  unfold prepare
  rw [h]
  rfl

/-- Without an address there is no request. -/
theorem prepare_of_address?_none {w : Webhook} {scopes : Scopes} (h : w.address? scopes = none) :
    w.prepare scopes = .error .invalidRequest := by
  unfold prepare
  rw [h]

/-- The blanks behind an address are trimmed off what it expands to. -/
theorem address?_of_blanks {w : Webhook} (scopes : Scopes) {cs after : List Char}
    (hurl : w.url.toList = cs ++ after) (ha : ∀ c ∈ after, Text.isBlank c = true) :
    w.address? scopes = (expanded? scopes cs).bind fun out =>
      Url.parse? (String.ofList (Text.trim (out ++ after))) := by
  rw [address?_eq, hurl, Template.expanded?_append ha, Option.bind_map]
  rfl

/-- The trimmed address is scanned from its trimmed characters. -/
theorem scan_trimmed (w : Webhook) :
    Template.scan (Text.trimString w.url) = Template.scanFrom 0 (Text.trim w.url.toList) := by
  rw [Template.scan, Text.trimString, String.toList_ofList]

/-- Blanks that do not displace its base stand before the address. -/
theorem expanded?_of_not_displacesBase {w : Webhook} {scopes : Scopes} {before : List Char}
    (hb : ∀ c ∈ before, Text.isBlank c = true)
    (hbefore : before = [] ↔ Text.trimLeft w.url.toList = w.url.toList)
    (hplaced : ¬w.DisplacesBase scopes) :
    expanded? scopes (before ++ Text.trim w.url.toList) =
      (expanded? scopes (Text.trim w.url.toList)).map (before ++ ·) := by
  by_cases hm : before = [] ∨
      ∀ body ts, Template.scanFrom 0 (Text.trim w.url.toList) ≠ .marker body 0 :: ts
  · exact Template.expanded?_prepend hb hm
  · -- a marker is displaced, and its value is made of letters alone
    simp only [not_or, not_forall, not_not] at hm
    obtain ⟨hne, body, ts, hs⟩ := hm
    obtain ⟨tail?, halone, hbehind⟩ := Template.expanded?_displaced scopes hb hne hs
    have hletters : ∀ c ∈ markerChars scopes body, c.isAlpha = true := by
      intro c hc
      by_contra hn
      exact hplaced ⟨fun h => hne (hbefore.2 h), body, ts, w.scan_trimmed.trans hs, c, hc,
        Bool.eq_false_iff.2 hn⟩
    rw [hbehind, halone, Template.encode?_of_letters hletters, Option.bind_some]

/-- **Blanks around an address do not matter, or displace its base.**  A webhook makes the request
that it makes without them, with the same method, address, headers and body, or fails in the same
way; unless there are blanks before a marker whose value is not made of letters alone, and then it
makes no request at all. -/
theorem prepare_trimmed (w : Webhook) (scopes : Scopes) :
    (w.DisplacesBase scopes → w.prepare scopes = .error .invalidRequest) ∧
      (¬w.DisplacesBase scopes →
        w.prepare scopes = { w with url := Text.trimString w.url }.prepare scopes) := by
  obtain ⟨before, after, hurl, hb, ha, hbefore⟩ := Text.exists_blanks_around w.url.toList
  have htrim : ∀ cs, Text.trim (before ++ cs ++ after) = Text.trim cs := Text.trim_surrounded hb ha
  have hw := address?_of_blanks scopes hurl ha
  constructor
  · rintro ⟨hindent, body, ts, hs, hvalue⟩
    obtain ⟨tail?, -, hbehind⟩ := Template.expanded?_displaced scopes hb
      (fun he => hindent (hbefore.1 he)) (w.scan_trimmed.symm.trans hs)
    refine prepare_of_address?_none ?_
    rw [hw, hbehind, Option.bind_map]
    cases he : Template.Encoding.pathSegment.encode? (markerChars scopes body) with
    | none => rfl
    | some encoded =>
      obtain ⟨hescaped, hother⟩ := Template.encode?_of_others hvalue he
      cases tail? with
      | none => rfl
      | some tail =>
        rw [Option.bind_some, Option.map_some, Option.bind_some, Function.comp_apply, htrim]
        exact Url.parse?_of_escaped hescaped hother tail
  · intro hplaced
    refine prepare_congr ?_
    rw [hw, expanded?_of_not_displacesBase hb hbefore hplaced, Option.bind_map, address?_eq,
      Text.trimString, String.toList_ofList]
    exact congrArg _ (funext fun cs => congrArg (fun ds => Url.parse? (String.ofList ds)) (htrim cs))

/-- Blanks before a marker do not matter if its value is the name of a scheme. -/
theorem prepare_scheme_behind_blank :
    let w : Webhook := { url := " ${global.scheme}://${args.host}/x\n" }
    let scopes := Scopes.forInvocation (.obj [("host", .str "h")]) (.obj [("scheme", .str "https")])
    ¬w.DisplacesBase scopes ∧
      w.prepare scopes = { w with url := Text.trimString w.url }.prepare scopes ∧
      (w.prepare scopes).toOption.map (fun r : Request => (r.method, r.url.text)) =
        some ("GET", "https://h/x") := by
  intro w scopes
  have hplaced : ¬w.DisplacesBase scopes := by
    rintro ⟨-, body, ts, hs, c, hc, hn⟩
    have hscan : (Template.scan (Text.trimString w.url)).head? =
        some (.marker "global.scheme".toList 0) := by
      decide +kernel
    rw [hs, List.head?_cons] at hscan
    obtain ⟨rfl, -⟩ := Template.Token.marker.inj (Option.some.inj hscan)
    have hletters : (markerChars scopes "global.scheme".toList).all Char.isAlpha = true := by
      decide +kernel
    rw [List.all_eq_true.1 hletters c hc] at hn
    cases hn
  exact ⟨hplaced, (prepare_trimmed w scopes).2 hplaced, by decide +kernel⟩

/-- **A blank before a base displaces it:** the address passes its check, and there is a request
without the blank, but none with it. -/
theorem base_behind_blank :
    let w : Webhook := { url := " ${global.base}/x" }
    let scopes := Scopes.forInvocation (.obj []) (.obj [("base", .str "https://h")])
    Check.address w.url "url" = .ok () ∧
      ({ w with url := Text.trimString w.url }.prepare scopes).toOption.map
        (fun r : Request => (r.method, r.url.text)) = some ("GET", "https://h/x") ∧
      (w.prepare scopes).toOption.map (fun r : Request => (r.method, r.url.text)) = none := by
  decide +kernel

end Webhook
end AgentTool
