import AgentTool.Proofs.QuotedSections
import AgentTool.Proofs.ScanLaws

/-!
# What the tokens of a text tell of it

Put together, the tokens of a text give back the text, and each of them stands where it says
(`scan_covers`).

| token | covers |
| --- | --- |
| text | characters among which no marker opens, at least one |
| marker | what opens a marker, the body, and the first brace outside its quoted sections |
| unterminated | what opens a marker, and all that follows; no brace in it is outside quoted sections |

A scan goes on behind the token it has found, so the tokens are told one behind the other
(`Token.StandFrom`), each from the byte at which the one before it ends.
-/

namespace AgentTool
namespace Template

/-- Where a token says that it stands. -/
def Token.place? : Token → Option Nat
  | .text _ => none
  | .marker _ offset => some offset
  | .unterminated _ offset => some offset

/-- Tokens that take a text apart. -/
structure Token.Cover (cs : List Char) (ts : List Token) : Prop where
  /-- nothing is lost -/
  sources : ts.flatMap Token.source = cs
  texts : ∀ text, .text text ∈ ts → text ≠ [] ∧ ¬['$', '{'] <:+: text
  /-- a token that swallows the rest is the last one -/
  last : ∀ rest offset, .unterminated rest offset ∉ ts.dropLast
  /-- the place of a marker is the byte at which it opens -/
  places : ∀ before t after offset, ts = before ++ t :: after → t.place? = some offset →
    ['$', '{'] <+: t.source ∧ offset = (String.ofList (before.flatMap Token.source)).utf8ByteSize
  markers : ∀ before body offset after, ts = before ++ .marker body offset :: after →
    IsCut (Sections WithEscapes) ['}'] (body ++ '}' :: after.flatMap Token.source) body
      (after.flatMap Token.source)
  unterminated : ∀ rest offset, .unterminated rest offset ∈ ts → ∃ inner,
    rest = '$' :: '{' :: inner ∧
      ∀ left right, ¬IsCut (Sections WithEscapes) ['}'] inner left right

/-! ## The text before a marker -/

/-- The text before a marker is the beginning of the text. -/
theorem prefix_of_breakMarker (cs : List Char) : (breakMarker cs).1 <+: cs := by
  fun_induction breakMarker cs with
  | case1 => exact List.prefix_rfl
  | case2 => exact List.nil_prefix
  | case3 c cs _ ih => exact List.cons_prefix_cons.2 ⟨rfl, ih⟩

/-- No marker opens before the first one. -/
theorem breakMarker_unopened (cs : List Char) : ¬['$', '{'] <:+: (breakMarker cs).1 := by
  fun_induction breakMarker cs with
  | case1 => exact fun h => absurd (List.infix_nil.1 h) (List.cons_ne_nil _ _)
  | case2 => exact fun h => absurd (List.infix_nil.1 h) (List.cons_ne_nil _ _)
  | case3 c cs hc ih =>
    rw [List.infix_cons_iff]
    rintro (h | h)
    · obtain ⟨rfl, hopen⟩ := List.cons_prefix_cons.1 h
      obtain ⟨rest, hr⟩ := hopen.trans (prefix_of_breakMarker cs)
      exact hc rest rfl hr.symm
    · exact ih h

/-- A text is what stands before its first marker, the marker's opening, and what is inside. -/
theorem breakMarker_joined {cs text : List Char} {inner? : Option (List Char)}
    (h : breakMarker cs = (text, inner?)) :
    cs = text ++ (inner?.map fun inner => '$' :: '{' :: inner).getD [] := by
  fun_induction breakMarker cs generalizing text with
  | case1 =>
    obtain ⟨rfl, rfl⟩ := Prod.mk.inj h
    rfl
  | case2 =>
    obtain ⟨rfl, rfl⟩ := Prod.mk.inj h
    rfl
  | case3 c cs _ ih =>
    obtain ⟨rfl, rfl⟩ := Prod.mk.inj h
    rw [List.cons_append, ← ih rfl]

/-- The token of a text gives the text back. -/
theorem flatMap_source_textToken (text : List Char) :
    (textToken text).flatMap Token.source = text := by
  unfold textToken
  split
  · rename_i h
    rw [List.isEmpty_iff.1 h]
    rfl
  · exact List.append_nil text

/-! ## Tokens one behind the other -/

/-- The size of characters is the size of their text. -/
theorem utf8Size_eq (cs : List Char) : Text.utf8Size cs = (String.ofList cs).utf8ByteSize := by
  induction cs with
  | nil => rfl
  | cons c cs ih =>
    rw [utf8Size_cons, ih, String.ofList_cons, String.utf8ByteSize_append,
      String.utf8ByteSize_singleton]

/-- A marker is three bytes longer than its body. -/
theorem utf8Size_marker (body : List Char) (offset : Nat) :
    Text.utf8Size (Token.marker body offset).source = 3 + Text.utf8Size body := by
  have hbraces : Text.utf8Size ['$', '{'] + Text.utf8Size ['}'] = 3 := by decide
  have hs : (Token.marker body offset).source = ['$', '{'] ++ body ++ ['}'] := rfl
  rw [hs, utf8Size_append, utf8Size_append]
  omega

/-- Tokens that stand one behind the other, the first of them at the byte `start`. -/
inductive Token.StandFrom : Nat → List Token → Prop where
  | nil {start : Nat} : StandFrom start []
  | text {start : Nat} {text : List Char} {ts : List Token} : text ≠ [] → ¬['$', '{'] <:+: text →
      StandFrom (start + Text.utf8Size text) ts → StandFrom start (.text text :: ts)
  | marker {start : Nat} {body : List Char} {ts : List Token} :
      IsCut (Sections WithEscapes) ['}'] (body ++ '}' :: ts.flatMap Token.source) body
        (ts.flatMap Token.source) →
      StandFrom (start + 3 + Text.utf8Size body) ts → StandFrom start (.marker body start :: ts)
  | unterminated {start : Nat} {inner : List Char} :
      (∀ left right, ¬IsCut (Sections WithEscapes) ['}'] inner left right) →
      StandFrom start [.unterminated ('$' :: '{' :: inner) start]

namespace Token.StandFrom

variable {start : Nat} {ts : List Token}

/-- A text may stand before tokens that stand behind it. -/
theorem append_textToken {text : List Char} (hn : ¬['$', '{'] <:+: text)
    (h : StandFrom (start + Text.utf8Size text) ts) :
    StandFrom start (textToken text ++ ts) := by
  unfold textToken
  split
  · rename_i he
    rw [List.isEmpty_iff.1 he] at h
    exact h
  · rename_i he
    exact .text (fun hnil => he (List.isEmpty_iff.2 hnil)) hn h

/-- **A scan finds tokens one behind the other,** and loses nothing. -/
theorem of_scanFrom (start : Nat) (cs : List Char) :
    StandFrom start (scanFrom start cs) ∧ (scanFrom start cs).flatMap Token.source = cs := by
  fun_induction scanFrom start cs with
  | case1 start cs text hb =>
    have hn := breakMarker_unopened cs
    have hj := breakMarker_joined hb
    rw [hb] at hn
    refine ⟨?_, ?_⟩
    · rw [← List.append_nil (textToken text)]
      exact append_textToken hn .nil
    · rw [flatMap_source_textToken, hj]
      exact (List.append_nil text).symm
  | case2 start cs text inner hb place =>
    rename_i hc
    have hn := breakMarker_unopened cs
    have hj := breakMarker_joined hb
    rw [hb] at hn
    refine ⟨append_textToken hn (.unterminated fun left right h => ?_), ?_⟩
    · rw [closeFrom_isCut.2 h] at hc
      cases hc
    · rw [List.flatMap_append, flatMap_source_textToken, hj]
      simp [Token.source]
  | case3 start cs text inner hb place body rest hc =>
    rename_i ih
    obtain ⟨ih, hs⟩ := ih
    have hn := breakMarker_unopened cs
    have hj := breakMarker_joined hb
    have hcut := closeFrom_isCut.1 hc
    have hinner : inner = body ++ '}' :: rest := by simpa using hcut.joined
    rw [hb] at hn
    rw [hinner] at hcut
    refine ⟨append_textToken hn (.marker ?_ ih), ?_⟩
    · rw [hs]
      exact hcut
    · rw [List.flatMap_append, flatMap_source_textToken, List.flatMap_cons, hs, hj, hinner]
      simp [Token.source]

/-- **Behind some of the tokens the others stand** from the byte at which these end. -/
theorem behind {before after : List Token} (h : StandFrom start (before ++ after)) :
    StandFrom (start + Text.utf8Size (before.flatMap Token.source)) after := by
  induction before generalizing start with
  | nil => exact h
  | cons t before ih =>
    rw [List.flatMap_cons, utf8Size_append, ← Nat.add_assoc]
    rw [List.cons_append] at h
    generalize hr : before ++ after = rest at h
    cases h with
    | text _ _ h =>
      subst hr
      exact ih h
    | marker _ h =>
      subst hr
      rw [utf8Size_marker, ← Nat.add_assoc]
      exact ih h
    | unterminated =>
      -- nothing stands behind a token that swallows the rest
      obtain ⟨rfl, rfl⟩ := List.append_eq_nil_iff.1 hr
      exact .nil

/-- Each of several tokens stands where those before it end. -/
theorem of_mem (h : StandFrom start ts) {t : Token} (ht : t ∈ ts) :
    ∃ place after, StandFrom place (t :: after) := by
  obtain ⟨before, after, rfl⟩ := List.append_of_mem ht
  exact ⟨_, after, h.behind⟩

/-- Only the last token may swallow the rest. -/
theorem last (h : StandFrom start ts) (rest : List Char) (offset : Nat) :
    .unterminated rest offset ∉ ts.dropLast := by
  intro hd
  have hne : ts ≠ [] := List.ne_nil_of_mem (List.dropLast_subset ts hd)
  obtain ⟨before, after, hb⟩ := List.append_of_mem hd
  rw [← List.dropLast_append_getLast hne, hb, List.append_assoc, List.cons_append] at h
  cases after <;> cases h.behind

end Token.StandFrom

/-- **The tokens of a template cover it.**  Put together they are the template; no text among them
is empty or opens a marker; only the last may be unterminated; a marker stands at the byte at which
it opens; and its body ends at the first brace outside quoted sections, in which a backslash takes
the next character with it. -/
theorem scan_covers (template : String) : Token.Cover template.toList (scan template) := by
  obtain ⟨h, hs⟩ := Token.StandFrom.of_scanFrom 0 template.toList
  have hbehind : ∀ before t after, scan template = before ++ t :: after →
      Token.StandFrom (String.ofList (before.flatMap Token.source)).utf8ByteSize (t :: after) := by
    intro before t after hts
    have hb := (show Token.StandFrom 0 (before ++ t :: after) from hts ▸ h).behind
    rwa [Nat.zero_add, utf8Size_eq] at hb
  constructor
  case sources => exact hs
  case last => exact h.last
  case texts =>
    intro text ht
    obtain ⟨_, _, h⟩ := h.of_mem ht
    cases h with
    | text hne hn _ => exact ⟨hne, hn⟩
  case places =>
    intro before t after offset hts hp
    cases hbehind before t after hts with
    | text => cases hp
    | marker => exact ⟨⟨_, rfl⟩, (Option.some.inj hp).symm⟩
    | unterminated => exact ⟨⟨_, rfl⟩, (Option.some.inj hp).symm⟩
  case markers =>
    intro before body offset after hts
    cases hbehind before _ after hts with
    | marker hcut _ => exact hcut
  case unterminated =>
    intro rest offset ht
    obtain ⟨_, _, h⟩ := h.of_mem ht
    cases h with
    | unterminated hn => exact ⟨_, rfl, hn⟩

/-- A brace between quotes, behind a quote with a backslash, closes nothing; offsets count bytes. -/
example : scan "é$\x7b'\\'\x7d' || x\x7d$\x7b\"\x7d" =
    [.text ['é'], .marker "'\\'\x7d' || x".toList 2, .unterminated "$\x7b\"\x7d".toList 15] := by
  decide +kernel

end Template
end AgentTool
