import AgentTool.Proofs.MarkerReadings

/-!
# Where a scan finds its tokens

Text without a dollar sign in front of a template belongs to the text before its first marker, and
text without braces behind a template belongs to its last token.

| text | in front | behind |
| --- | --- | --- |
| `breakMarker` | `breakMarker_prepend`, `breakMarker_before` | `breakMarker_append` |
| `closeFrom` | | `closeFrom_append`, `closeFrom_append_none` |
| `scanFrom` | | `scanFrom_append` |

Where a scan starts is told by the places of its tokens alone (`scanFrom_shift`, `scanFrom_alike`),
and a marker stands at byte zero only if no token stands before it (`eq_nil_of_offset_eq_zero`).
-/

namespace AgentTool
namespace Template

/-- Text in which no marker can open is passed on the way to the first marker. -/
theorem breakMarker_prepend {before : List Char} (h : '$' ∉ before) (cs : List Char) :
    breakMarker (before ++ cs) = (before ++ (breakMarker cs).1, (breakMarker cs).2) := by
  induction before with
  | nil => rfl
  | cons c before ih =>
    rw [List.mem_cons, not_or] at h
    rw [List.cons_append, breakMarker, ih h.2, List.cons_append]
    rintro - rfl -
    exact h.1 rfl

/-- Text in which no marker can open, or go on to open, is left behind the first marker; without a
marker it belongs to the text. -/
theorem breakMarker_append {after : List Char} (hd : '$' ∉ after) (hb : '{' ∉ after)
    (cs : List Char) :
    breakMarker (cs ++ after) = match breakMarker cs with
      | (text, none) => (text ++ after, none)
      | (text, some inner) => (text, some (inner ++ after)) := by
  fun_induction breakMarker cs with
  | case1 =>
    have hp := breakMarker_prepend hd []
    rw [List.append_nil, breakMarker, List.append_nil] at hp
    exact hp
  | case2 cs => rw [List.cons_append, List.cons_append, breakMarker]
  | case3 c cs hc ih =>
    rw [List.cons_append, breakMarker, ih]
    · rcases breakMarker cs with ⟨text, _ | inner⟩ <;> rfl
    · rintro rest rfl hr
      cases cs with
      | nil =>
        rw [List.nil_append] at hr
        rw [hr] at hb
        exact hb List.mem_cons_self
      | cons d cs =>
        obtain ⟨rfl, -⟩ := List.cons.inj hr
        exact hc cs rfl rfl

/-- What stands behind a closed marker does not change it. -/
theorem closeFrom_append {q : Quoting} {cs body rest : List Char}
    (h : closeFrom q cs = some (body, rest)) (after : List Char) :
    closeFrom q (cs ++ after) = some (body, rest ++ after) := by
  obtain ⟨rfl, hp⟩ := closeFrom_eq_some.1 h
  exact closeFrom_eq_some.2 ⟨by simp, hp⟩

/-- Text without a closing brace does not close a marker. -/
theorem closeFrom_append_none {after : List Char} (ha : '}' ∉ after) {q : Quoting} {cs : List Char}
    (h : closeFrom q cs = none) : closeFrom q (cs ++ after) = none := by
  cases hc : closeFrom q (cs ++ after) with
  | none => rfl
  | some cut =>
    obtain ⟨body, rest⟩ := cut
    obtain ⟨he, hp⟩ := closeFrom_eq_some.1 hc
    rcases List.append_eq_append_iff.1 he with ⟨mid, -, hm⟩ | ⟨mid, rfl, hm⟩
    · exact absurd (by simp [hm]) ha
    · cases mid with
      | nil =>
        rw [List.nil_append] at hm
        exact absurd (by simp [← hm]) ha
      | cons c mid =>
        obtain ⟨rfl, -⟩ := List.cons.inj hm
        rw [closeFrom_eq_some.2 ⟨rfl, hp⟩] at h
        cases h

/-- The text before a marker that is never closed, and the rest of the template. -/
theorem scanFrom_unterminated {offset : Nat} {cs text inner : List Char}
    (hb : breakMarker cs = (text, some inner)) (hc : closeFrom .outside inner = none) :
    scanFrom offset cs =
      textToken text ++ [.unterminated ('$' :: '{' :: inner) (offset + Text.utf8Size text)] := by
  rw [scanFrom]
  split
  · rename_i t ht
    cases ht.symm.trans hb
  · rename_i t i ht
    obtain ⟨rfl, hi⟩ := Prod.mk.inj (ht.symm.trans hb)
    obtain rfl := Option.some.inj hi
    split
    · rfl
    · rename_i b r hs
      cases hs.symm.trans hc

/-- **Text without braces behind a template goes on with its last token.**  This is text, or a
marker that is never closed. -/
theorem scanFrom_append {after : List Char} (hd : '$' ∉ after) (ho : '{' ∉ after) (hc : '}' ∉ after)
    (start : Nat) (cs : List Char) :
    ∃ ts, (∃ text, scanFrom start cs = ts ++ textToken text ∧
        scanFrom start (cs ++ after) = ts ++ textToken (text ++ after)) ∨
      ∃ rest place, scanFrom start cs = ts ++ [.unterminated rest place] ∧
        scanFrom start (cs ++ after) = ts ++ [.unterminated (rest ++ after) place] := by
  have ha := breakMarker_append hd ho
  fun_induction scanFrom start cs with
  | case1 start cs text hm =>
    specialize ha cs
    rw [hm] at ha
    exact ⟨[], .inl ⟨text, rfl, scanFrom_text ha⟩⟩
  | case2 start cs text inner hm place =>
    rename_i hn
    specialize ha cs
    rw [hm] at ha
    exact ⟨textToken text, .inr ⟨'$' :: '{' :: inner, place, rfl,
      scanFrom_unterminated ha (closeFrom_append_none hc hn)⟩⟩
  | case3 start cs text inner hm place body rest hs =>
    rename_i ih
    specialize ha cs
    rw [hm] at ha
    have hmarker : scanFrom start (cs ++ after) = textToken text ++ .marker body place ::
        scanFrom (place + 3 + Text.utf8Size body) (rest ++ after) :=
      scanFrom_marker ha (closeFrom_append hs after)
    obtain ⟨ts, hts⟩ := ih
    refine ⟨textToken text ++ .marker body place :: ts, hts.imp ?_ ?_⟩
    · rintro ⟨last, ht, hl⟩
      refine ⟨last, ?_, ?_⟩
      · rw [ht, List.append_assoc, List.cons_append]
      · rw [hmarker, hl, List.append_assoc, List.cons_append]
    · rintro ⟨open', place', ht, hl⟩
      refine ⟨open', place', ?_, ?_⟩
      · rw [ht, List.append_assoc, List.cons_append]
      · rw [hmarker, hl, List.append_assoc, List.cons_append]

/-- Text in which no marker opens is passed on the way to the marker behind it. -/
theorem breakMarker_before {text : List Char} (h : Text.contains ['$', '{'] text = false)
    (cs : List Char) : breakMarker (text ++ '$' :: '{' :: cs) = (text, some cs) := by
  have hb := breakMarker_of_not_contains h
  clear h
  fun_induction breakMarker text with
  | case1 => rw [List.nil_append, breakMarker]
  | case2 => cases hb
  | case3 c text hc ih =>
    obtain ⟨ht, hn⟩ := Prod.mk.inj hb
    have ht : (breakMarker text).1 = text := (List.cons.inj ht).2
    rw [List.cons_append, breakMarker, ih (Prod.ext ht hn)]
    -- the marker does not open at a dollar sign right before it, nor inside the text
    rintro rest rfl hr
    cases text with
    | nil => cases (List.cons.inj hr).1
    | cons d text => exact hc text rfl (congrArg (· :: text) (List.cons.inj hr).1)

/-! ## Places -/

/-- A token that stands so many bytes later. -/
def Token.shift (n : Nat) : Token → Token
  | .text cs => .text cs
  | .marker body offset => .marker body (n + offset)
  | .unterminated rest offset => .unterminated rest (n + offset)

/-- The token of a text has no place that could shift. -/
theorem map_shift_textToken (n : Nat) (cs : List Char) :
    (textToken cs).map (Token.shift n) = textToken cs := by
  unfold textToken
  split <;> rfl

/-- **A scan that starts later finds the same tokens, later.** -/
theorem scanFrom_shift (n start : Nat) (cs : List Char) :
    scanFrom (n + start) cs = (scanFrom start cs).map (Token.shift n) := by
  fun_induction scanFrom start cs with
  | case1 start cs text hb => rw [scanFrom_text hb, map_shift_textToken]
  | case2 start cs text inner hb place =>
    rename_i hc
    rw [scanFrom_unterminated hb hc, List.map_append, map_shift_textToken, Nat.add_assoc]
    rfl
  | case3 start cs text inner hb place body rest hc =>
    rename_i ih
    have hplace : n + start + Text.utf8Size text = n + place := Nat.add_assoc _ _ _
    rw [scanFrom_marker hb hc, List.map_append, List.map_cons, map_shift_textToken, ← ih, hplace,
      Nat.add_assoc n, Nat.add_assoc n]
    rfl

/-- Tokens that agree in all but their places, and of which both or none stand at the start. -/
inductive Token.Alike : Token → Token → Prop where
  | text {cs : List Char} : Token.Alike (.text cs) (.text cs)
  | marker {body : List Char} {p q : Nat} : (p = 0 ↔ q = 0) →
      Token.Alike (.marker body p) (.marker body q)
  | unterminated {rest : List Char} {p q : Nat} :
      Token.Alike (.unterminated rest p) (.unterminated rest q)

/-- The token of a text is like itself. -/
theorem textToken_alike (cs : List Char) : List.Forall₂ Token.Alike (textToken cs) (textToken cs) := by
  unfold textToken
  split
  · exact .nil
  · exact .cons .text .nil

/-- **Behind its start a template is scanned alike from anywhere.** -/
theorem scanFrom_alike {p q : Nat} (hp : 0 < p) (hq : 0 < q) (cs : List Char) :
    List.Forall₂ Token.Alike (scanFrom p cs) (scanFrom q cs) := by
  fun_induction scanFrom p cs generalizing q with
  | case1 p cs text hb =>
    rw [scanFrom_text hb]
    exact textToken_alike text
  | case2 p cs text inner hb place =>
    rename_i hc
    rw [scanFrom_unterminated hb hc]
    exact List.rel_append (textToken_alike text) (.cons .unterminated .nil)
  | case3 p cs text inner hb place body rest hc =>
    rename_i ih
    rw [scanFrom_marker hb hc]
    have hplace : place = 0 ↔ q + Text.utf8Size text = 0 := by omega
    exact List.rel_append (textToken_alike text) (.cons (.marker hplace) (ih (by omega) (by omega)))

/-- A text takes the bytes of its characters. -/
theorem utf8Size_cons (c : Char) (cs : List Char) :
    Text.utf8Size (c :: cs) = c.utf8Size + Text.utf8Size cs := by
  rw [Text.utf8Size, Text.utf8Size, ← List.sum_eq_foldl, ← List.sum_eq_foldl, List.map_cons,
    List.sum_cons]

/-- The size of two texts is the sum of their sizes. -/
theorem utf8Size_append (cs ds : List Char) :
    Text.utf8Size (cs ++ ds) = Text.utf8Size cs + Text.utf8Size ds := by
  induction cs with
  | nil =>
    have hnil : Text.utf8Size [] = 0 := rfl
    rw [List.nil_append, hnil]
    omega
  | cons c cs ih =>
    rw [List.cons_append, utf8Size_cons, utf8Size_cons, ih]
    omega

/-- Only the empty text takes no bytes. -/
theorem utf8Size_eq_zero {cs : List Char} (h : Text.utf8Size cs = 0) : cs = [] := by
  cases cs with
  | nil => rfl
  | cons c cs =>
    have hc := c.utf8Size_pos
    rw [utf8Size_cons] at h
    omega

/-- No marker is among the tokens of a text. -/
theorem eq_of_textToken_append {text body : List Char} {offset : Nat} {ts before after : List Token}
    (h : textToken text ++ ts = before ++ .marker body offset :: after) :
    ∃ mid, before = textToken text ++ mid ∧ ts = mid ++ .marker body offset :: after := by
  rcases List.append_eq_append_iff.1 h with ⟨mid, rfl, hm⟩ | ⟨mid, ht, hm⟩
  · exact ⟨mid, rfl, hm⟩
  · cases mid with
    | nil => exact ⟨[], by rw [ht, List.append_nil, List.append_nil], hm.symm⟩
    | cons t mid =>
      obtain ⟨rfl, -⟩ := List.cons.inj hm
      have hin : Token.marker body offset ∈ textToken text := by simp [ht]
      unfold textToken at hin
      split at hin <;> simp at hin

/-- A scan finds no marker before its start, and at its start only as its first token. -/
theorem offset_of_scanFrom {start : Nat} {cs : List Char} {before after : List Token}
    {body : List Char} {offset : Nat}
    (h : scanFrom start cs = before ++ .marker body offset :: after) :
    start ≤ offset ∧ (offset = start → before = []) := by
  fun_induction scanFrom start cs generalizing before with
  | case1 start cs text hb =>
    rw [← List.append_nil (textToken text)] at h
    obtain ⟨mid, -, hm⟩ := eq_of_textToken_append h
    simp at hm
  | case2 start cs text inner hb place =>
    obtain ⟨mid, -, hm⟩ := eq_of_textToken_append h
    have hin : Token.marker body offset ∈ [Token.unterminated ('$' :: '{' :: inner) place] := by
      simp [hm]
    simp at hin
  | case3 start cs text inner hb place first rest hc =>
    rename_i ih
    obtain ⟨mid, rfl, hm⟩ := eq_of_textToken_append h
    -- the marker is the first one, or one of the scan behind it
    cases mid with
    | nil =>
      obtain ⟨he, -⟩ := List.cons.inj hm
      obtain ⟨-, rfl⟩ := Token.marker.inj he
      refine ⟨Nat.le_add_right _ _, fun hz => ?_⟩
      rw [utf8Size_eq_zero (show Text.utf8Size text = 0 by omega)]
      rfl
    | cons t mid =>
      obtain ⟨-, hs⟩ := List.cons.inj hm
      obtain ⟨hle, -⟩ := ih hs
      exact ⟨by omega, fun hz => by omega⟩

/-- A template whose first token is a marker opens with it. -/
theorem breakMarker_of_marker {start offset : Nat} {cs body : List Char} {ts : List Token}
    (h : scanFrom start cs = .marker body offset :: ts) :
    ∃ inner rest, breakMarker cs = ([], some inner) ∧
      closeFrom .outside inner = some (body, rest) := by
  have hempty : ∀ {text : List Char} {us : List Token},
      textToken text ++ us = .marker body offset :: ts → text = [] ∧ us = .marker body offset :: ts :=
    fun {text us} hu => by
      cases text with
      | nil => exact ⟨rfl, hu⟩
      | cons c text => cases hu
  rcases hb : breakMarker cs with ⟨text, _ | inner⟩
  · rw [scanFrom_text hb, ← List.append_nil (textToken text)] at h
    cases (hempty h).2
  cases hc : closeFrom .outside inner with
  | none =>
    rw [scanFrom_unterminated hb hc] at h
    cases (hempty h).2
  | some cut =>
    obtain ⟨first, rest⟩ := cut
    rw [scanFrom_marker hb hc] at h
    obtain ⟨rfl, ht⟩ := hempty h
    obtain ⟨hfirst, -⟩ := List.cons.inj ht
    obtain ⟨rfl, -⟩ := Token.marker.inj hfirst
    exact ⟨inner, rest, rfl, hc⟩

/-- A marker at the first byte is the first token. -/
theorem eq_nil_of_offset_eq_zero {template : String} {before after : List Token}
    {body : List Char} (h : scan template = before ++ .marker body 0 :: after) : before = [] :=
  (offset_of_scanFrom h).2 rfl

end Template
end AgentTool
