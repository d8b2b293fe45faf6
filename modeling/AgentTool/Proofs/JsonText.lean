import AgentTool.Json.Printer
import AgentTool.Json.Reader
import AgentTool.Proofs.FloatText
import Mathlib.Data.List.Chain

/-!
# Reading back what is written

The compact text of a value is the texts of its tokens one after the other, and it is read back as
the value (`Json.readEntries?_compact`).  Nothing but punctuation tells where a number or a literal
name ends; in the tokens of a value one of two neighbours is always punctuation.

That is so for values that a reader has room for, and whose floats are read back from their texts
each by itself (`Json.Legible`).
-/

namespace AgentTool
namespace Json

/-! ## Tokens -/

namespace Lexer

variable {l : Lexer} {text cs : List Char} {toks : List Token} {t : Token} {c : Char}

/-- The lexer once the number or the name that it stands in has ended. -/
def settled (l : Lexer) : Option Lexer :=
  match l.mode with
  | .number text => (number? text.reverse).map fun t => ⟨.between, t :: l.tokens⟩
  | .word text => (word? text.reverse).map fun t => ⟨.between, t :: l.tokens⟩
  | _ => some l

/-- A mark is a token by itself. -/
theorem start_mark (hc : punctuation? c = some t) : start toks c = some ⟨.between, t :: toks⟩ := by
  unfold punctuation? at hc
  split at hc <;> first | cases hc; rfl | cases hc

/-- A mark of punctuation is no part of a number or a name. -/
theorem mark_ends (hc : punctuation? c = some t) : isNumberChar c = false ∧ c.isAlpha = false := by
  unfold punctuation? at hc
  split at hc <;> first | cases hc; exact ⟨by decide, by decide⟩ | cases hc

/-- A mark of punctuation ends what stands before it. -/
theorem step_mark (h : l.settled = some ⟨.between, toks⟩) (hc : punctuation? c = some t) :
    l.step c = some ⟨.between, t :: toks⟩ := by
  obtain ⟨mode, tokens⟩ := l
  obtain ⟨hn, ha⟩ := mark_ends hc
  cases mode with
  | number text =>
    obtain ⟨u, hu, he⟩ := Option.map_eq_some_iff.1 h
    simp only [Lexer.mk.injEq, true_and] at he
    simp [step, hn, hu, he, start_mark hc]
  | word text =>
    obtain ⟨u, hu, he⟩ := Option.map_eq_some_iff.1 h
    simp only [Lexer.mk.injEq, true_and] at he
    simp [step, ha, hu, he, start_mark hc]
  | between =>
    obtain rfl : tokens = toks := (Lexer.mk.inj (Option.some.inj h)).2
    exact start_mark hc
  | _ => cases h

/-- The end of the text ends the token that is being read. -/
theorem finish_settled (h : l.settled = some ⟨.between, toks⟩) : l.finish = some toks.reverse := by
  obtain ⟨mode, tokens⟩ := l
  cases mode with
  | number text | word text =>
    obtain ⟨u, hu, he⟩ := Option.map_eq_some_iff.1 h
    simp only [Lexer.mk.injEq, true_and] at he
    simp [finish, hu, ← he]
  | between =>
    obtain rfl : tokens = toks := (Lexer.mk.inj (Option.some.inj h)).2
    rfl
  | _ => cases h

/-! ### Strings -/

/-- A hexadecimal digit is worth what it is written for. -/
theorem hexValue?_hexDigit {n : Nat} (h : n < 16) : hexValue? (hexDigit n) = some n := by
  have hd : ∀ n < 16, hexValue? (hexDigit n) = some n := by decide
  exact hd n h

/-- A control character is read back from its code. -/
theorem run_code (hc : c.toNat < 32) :
    run ⟨.string text none, toks⟩
      ['\\', 'u', '0', '0', hexDigit (c.toNat / 16), hexDigit (c.toNat % 16)] =
        some ⟨.string (c :: text) none, toks⟩ := by
  have h0 : hexValue? '0' = some 0 := by decide
  have h1 := hexValue?_hexDigit (show c.toNat / 16 < 16 by omega)
  have h2 := hexValue?_hexDigit (show c.toNat % 16 < 16 by omega)
  have hcode : c.toNat / 16 * 16 + c.toNat % 16 = c.toNat := by omega
  have hu : codeUnit text none c.toNat = some (.string (c :: text) none) := by
    have hhigh : ¬0xD800 ≤ c.toNat := by omega
    have hlow : ¬0xDC00 ≤ c.toNat := by omega
    simp [codeUnit, hhigh, hlow, Char.ofNat_toNat]
  simp [run, step, h0, h1, h2, hcode, hu]

/-- A character is read back from what stands for it in a string. -/
theorem run_escapeChar (c : Char) :
    run ⟨.string text none, toks⟩ (escapeChar c) = some ⟨.string (c :: text) none, toks⟩ := by
  unfold escapeChar
  iterate 7
    split
    · rename_i h
      subst h
      rfl
  split
  · rename_i h
    exact run_code h
  · rename_i hq hb _ _ _ _ _ hc
    simp [run, step, hq, hb, hc]

/-- The escaped characters of a string are read as the characters. -/
theorem run_escaped (cs : List Char) :
    run ⟨.string text none, toks⟩ (cs.flatMap escapeChar) =
      some ⟨.string (cs.reverse ++ text) none, toks⟩ := by
  induction cs generalizing text with
  | nil => rfl
  | cons c cs ih =>
    rw [List.flatMap_cons, run, List.foldlM_append, ← run, run_escapeChar]
    rw [List.reverse_cons, List.append_assoc]
    exact ih

/-! ### Numbers -/

/-- Characters of numbers go on with a number. -/
theorem run_numberChars (h : ∀ c ∈ cs, isNumberChar c = true) :
    run ⟨.number text, toks⟩ cs = some ⟨.number (cs.reverse ++ text), toks⟩ := by
  induction cs generalizing text with
  | nil => rfl
  | cons c cs ih =>
    obtain ⟨hc, hcs⟩ := List.forall_mem_cons.1 h
    have hs : step ⟨.number text, toks⟩ c = some ⟨.number (c :: text), toks⟩ := by simp [step, hc]
    rw [run, List.foldlM_cons, hs, List.reverse_cons, List.append_assoc]
    exact ih hcs

/-- A digit or a sign opens a number. -/
theorem start_number (h : c.isDigit = true ∨ c = '-') :
    start toks c = some ⟨.number [c], toks⟩ := by
  rcases h with h | rfl
  · have hne (d : Char) (hd : d.isDigit = false) : c ≠ d := by
      rintro rfl
      rw [h] at hd
      cases hd
    simp [start, h, hne ' ' rfl, hne '\t' rfl, hne '\n' rfl, hne '\r' rfl, hne '"' rfl]
  · rfl

/-- The text of a number is read as one number that may go on. -/
theorem run_number (h : IsNumberText cs) :
    run ⟨.between, toks⟩ cs = some ⟨.number cs.reverse, toks⟩ := by
  obtain ⟨⟨c, hc, hs⟩, ha⟩ := h
  obtain ⟨cs, rfl⟩ := List.head?_eq_some_iff.1 hc
  have hstart : step ⟨.between, toks⟩ c = some ⟨.number [c], toks⟩ := start_number hs
  rw [run, List.foldlM_cons, hstart, List.reverse_cons]
  exact run_numberChars (List.forall_mem_cons.1 ha).2

end Lexer

/-! ### Sequences of tokens -/

namespace Token

open Lexer

variable {t u : Token}

/-- Whether a token is punctuation. -/
def isMark : Token → Bool
  | openArr | closeArr | openObj | closeObj | comma | colon => true
  | _ => false

/-- A mark is one character, which is read as the mark. -/
theorem exists_mark (h : t.isMark = true) : ∃ c, t.text = [c] ∧ punctuation? c = some t := by
  cases t <;> first | exact ⟨_, rfl, rfl⟩ | cases h

/-- The text of a token is read as the token. -/
def IsRead (t : Token) : Prop :=
  ∀ toks, ∃ l, run ⟨.between, toks⟩ t.text = some l ∧ l.settled = some ⟨.between, t :: toks⟩

/-- A mark is read back from its text. -/
theorem isRead_of_isMark (h : t.isMark = true) : t.IsRead := by
  obtain ⟨c, hc, hp⟩ := exists_mark h
  intro toks
  refine ⟨⟨.between, t :: toks⟩, ?_, rfl⟩
  have hs : Lexer.step ⟨.between, toks⟩ c = some ⟨.between, t :: toks⟩ := start_mark hp
  rw [hc, run, List.foldlM_cons, hs]
  rfl

/-- Null is read back from its text. -/
theorem isRead_null : IsRead null := fun _ => ⟨_, rfl, rfl⟩

/-- A flag is read back from its text. -/
theorem isRead_bool {b : Bool} : IsRead (bool b) := by
  cases b <;> exact fun _ => ⟨_, rfl, rfl⟩

/-- A string is read back from its text. -/
theorem isRead_str {s : String} : IsRead (str s) := fun toks => by
  refine ⟨⟨.between, .str s :: toks⟩, ?_, rfl⟩
  have hq : Lexer.step ⟨.between, toks⟩ '"' = some ⟨.string [] none, toks⟩ := rfl
  have he := @run_escaped [] toks s.toList
  rw [text, quoted, run, List.cons_append, List.foldlM_cons, hq]
  rw [run, List.append_nil] at he
  simp only [Option.bind_eq_bind, Option.bind_some, List.foldlM_append, he]
  simp [Lexer.step]

/-- A number is read back from its text if its text stands for it. -/
theorem isRead_of_number (hn : IsNumberText t.text) (h : number? t.text = some t) : t.IsRead :=
  fun toks => by
    refine ⟨⟨.number t.text.reverse, toks⟩, run_number hn, ?_⟩
    change (number? t.text.reverse.reverse).map _ = _
    rw [List.reverse_reverse, h]
    rfl

/-- One of two neighbours is punctuation. -/
def Apart (t u : Token) : Prop := t.isMark = true ∨ u.isMark = true

/-- Tokens that are read, one after the other, with punctuation between them. -/
theorem run_texts {ts : List Token} (hr : ∀ t ∈ ts, t.IsRead) (hc : ts.IsChain Apart) {l : Lexer}
    {toks : List Token} (hl : l.settled = some ⟨.between, toks⟩)
    (hm : l.mode = .between ∨ ∀ t ∈ ts.head?, t.isMark = true) :
    ∃ l', run l (ts.flatMap text) = some l' ∧ l'.settled = some ⟨.between, ts.reverse ++ toks⟩ := by
  induction ts generalizing l toks with
  | nil => exact ⟨l, rfl, hl⟩
  | cons t ts ih =>
    obtain ⟨ht, hts⟩ := List.forall_mem_cons.1 hr
    rw [List.isChain_cons] at hc
    have hstep : ∃ l₁, run l t.text = some l₁ ∧ l₁.settled = some ⟨.between, t :: toks⟩ ∧
        (t.isMark = true → l₁.mode = .between) := by
      by_cases hmark : t.isMark = true
      · obtain ⟨c, htext, hp⟩ := exists_mark hmark
        refine ⟨⟨.between, t :: toks⟩, ?_, rfl, fun _ => rfl⟩
        rw [htext, run, List.foldlM_cons, step_mark hl hp]
        rfl
      · have hb : l.mode = .between := hm.resolve_right fun h => hmark (h t rfl)
        obtain ⟨mode, tokens⟩ := l
        obtain rfl : mode = .between := hb
        obtain rfl : tokens = toks := (Lexer.mk.inj (Option.some.inj hl)).2
        obtain ⟨l₁, hrun, hset⟩ := ht tokens
        exact ⟨l₁, hrun, hset, fun h => absurd h hmark⟩
    obtain ⟨l₁, hrun, hset, hmode⟩ := hstep
    have hnext : l₁.mode = .between ∨ ∀ u ∈ ts.head?, u.isMark = true := by
      by_cases hmark : t.isMark = true
      · exact .inl (hmode hmark)
      · exact .inr fun u hu => (hc.1 u hu).resolve_left hmark
    obtain ⟨l', hrun', hset'⟩ := ih hts hc.2 hset hnext
    refine ⟨l', ?_, ?_⟩
    · rw [run] at hrun hrun'
      rw [List.flatMap_cons, run, List.foldlM_append, hrun]
      exact hrun'
    · rw [hset', List.reverse_cons, List.append_assoc]
      rfl

/-- **Tokens are read back from their texts.** -/
theorem tokenize?_texts {ts : List Token} (hr : ∀ t ∈ ts, t.IsRead) (hc : ts.IsChain Apart) :
    tokenize? (ts.flatMap text) = some ts := by
  obtain ⟨l, hrun, hset⟩ := run_texts hr hc (l := ⟨.between, []⟩) rfl (.inl rfl)
  rw [tokenize?, hrun, Option.bind_some, finish_settled hset, List.append_nil, List.reverse_reverse]

end Token

/-! ## Values -/

/-- A value with room for so many containers, one within the other, whose integers have 64 bits and
whose floats are read back from their texts. -/
inductive Legible : Nat → Json → Prop
  | null {room : Nat} : Legible room .null
  | bool {room : Nat} {b : Bool} : Legible room (.bool b)
  | int {room : Nat} {n : Int} (h : IsWord n) : Legible room (.int n)
  | float {room : Nat} {x : Binary64} (h : IsReadBack x) : Legible room (.float x)
  | str {room : Nat} {s : String} : Legible room (.str s)
  | arr {room : Nat} {items : List Json} (h : ∀ v ∈ items, Legible room v) :
    Legible (room + 1) (.arr items)
  | obj {room : Nat} {es : List (String × Json)} (h : ∀ e ∈ es, Legible room e.2) :
    Legible (room + 1) (.obj es)

variable {room : Nat} {v : Json} {items : List Json} {es : List (String × Json)}
  {stack : List Frame} {expect : Expect} {t : Token} {ts rest : List Token}

/-- Between two items there is a comma. -/
theorem itemTokens_cons_cons (v w : Json) (vs : List Json) :
    itemTokens (v :: w :: vs) = v.tokens ++ .comma :: itemTokens (w :: vs) := rfl

/-- Between two entries there is a comma. -/
theorem entryTokens_cons_cons (e f : String × Json) (es : List (String × Json)) :
    entryTokens (e :: f :: es) =
      .str e.1 :: .colon :: (e.2.tokens ++ .comma :: entryTokens (f :: es)) := rfl

/-- The tokens of items are marks and the tokens of each item. -/
theorem mem_itemTokens : {items : List Json} → t ∈ itemTokens items →
    t.isMark = true ∨ ∃ v ∈ items, t ∈ v.tokens
  | [v], h => .inr ⟨v, by simp, h⟩
  | v :: w :: vs, h => by
    rw [itemTokens_cons_cons, List.mem_append, List.mem_cons] at h
    rcases h with h | rfl | h
    · exact .inr ⟨v, by simp, h⟩
    · exact .inl rfl
    · exact (mem_itemTokens h).imp_right fun ⟨u, hu, ht⟩ => ⟨u, List.mem_cons_of_mem v hu, ht⟩

/-- The tokens of entries are marks, keys and the tokens of each value. -/
theorem mem_entryTokens : {es : List (String × Json)} → t ∈ entryTokens es →
    t.isMark = true ∨ (∃ k, t = .str k) ∨ ∃ e ∈ es, t ∈ e.2.tokens
  | [(k, v)], h => by
    rcases List.mem_cons.1 h with rfl | h
    · exact .inr (.inl ⟨k, rfl⟩)
    · rcases List.mem_cons.1 h with rfl | h
      · exact .inl rfl
      · exact .inr (.inr ⟨(k, v), by simp, h⟩)
  | e :: f :: es, h => by
    rw [entryTokens_cons_cons, List.mem_cons, List.mem_cons, List.mem_append, List.mem_cons] at h
    rcases h with rfl | rfl | h | rfl | h
    · exact .inr (.inl ⟨e.1, rfl⟩)
    · exact .inl rfl
    · exact .inr (.inr ⟨e, by simp, h⟩)
    · exact .inl rfl
    · exact (mem_entryTokens h).imp_right
        (.imp_right fun ⟨u, hu, ht⟩ => ⟨u, List.mem_cons_of_mem e hu, ht⟩)

/-- Every token of a legible value is read back from its text. -/
theorem Legible.isRead (h : v.Legible room) : ∀ t ∈ v.tokens, t.IsRead := by
  induction h with
  | null => exact List.forall_mem_singleton.2 Token.isRead_null
  | bool => exact List.forall_mem_singleton.2 Token.isRead_bool
  | int h =>
    exact List.forall_mem_singleton.2
      (Token.isRead_of_number (isNumberText_intText _) (number?_intText h))
  | float h =>
    exact List.forall_mem_singleton.2 (Token.isRead_of_number (isNumberText_decimalText _) h)
  | str => exact List.forall_mem_singleton.2 Token.isRead_str
  | arr h ih =>
    intro t ht
    rw [tokens, List.mem_append, List.mem_cons, List.mem_singleton] at ht
    rcases ht with (rfl | ht) | rfl
    · exact Token.isRead_of_isMark rfl
    · rcases mem_itemTokens ht with hm | ⟨v, hv, ht⟩
      · exact Token.isRead_of_isMark hm
      · exact ih v hv t ht
    · exact Token.isRead_of_isMark rfl
  | obj h ih =>
    intro t ht
    rw [tokens, List.mem_append, List.mem_cons, List.mem_singleton] at ht
    rcases ht with (rfl | ht) | rfl
    · exact Token.isRead_of_isMark rfl
    · rcases mem_entryTokens ht with hm | ⟨k, rfl⟩ | ⟨e, he, ht⟩
      · exact Token.isRead_of_isMark hm
      · exact Token.isRead_str
      · exact ih e he t ht
    · exact Token.isRead_of_isMark rfl

/-- Tokens stay apart around punctuation. -/
theorem isChain_around (ts : List Token) {us : List Token} (hm : t.isMark = true)
    (hts : ts.IsChain Token.Apart) (hus : us.IsChain Token.Apart) :
    (ts ++ t :: us).IsChain Token.Apart := by
  rw [List.isChain_append]
  refine ⟨hts, List.isChain_cons.2 ⟨fun _ _ => .inl hm, hus⟩, fun _ _ u hu => .inr ?_⟩
  exact Option.some.inj hu ▸ hm

mutual

/-- **The tokens of a value are apart.** -/
theorem isChain_tokens : (v : Json) → v.tokens.IsChain Token.Apart
  | null | bool _ | int _ | float _ | str _ => .singleton _
  | arr items => isChain_around (t := .openArr) [] rfl .nil
    (isChain_around _ rfl (isChain_itemTokens items) .nil)
  | obj es => isChain_around (t := .openObj) [] rfl .nil
    (isChain_around _ rfl (isChain_entryTokens es) .nil)

/-- `isChain_tokens` on the items of an array. -/
theorem isChain_itemTokens : (items : List Json) → (itemTokens items).IsChain Token.Apart
  | [] => .nil
  | [v] => isChain_tokens v
  | v :: w :: vs => isChain_around _ rfl (isChain_tokens v) (isChain_itemTokens (w :: vs))

/-- `isChain_tokens` on the entries of an object. -/
theorem isChain_entryTokens :
    (es : List (String × Json)) → (entryTokens es).IsChain Token.Apart
  | [] => .nil
  | [(k, v)] => isChain_around [.str k] rfl (.singleton _) (isChain_tokens v)
  | (k, v) :: e :: es => isChain_around [.str k] rfl (.singleton _)
    (isChain_around _ rfl (isChain_tokens v) (isChain_entryTokens (e :: es)))

end

/-! ### Building -/

/-- A token takes one step of building. -/
theorem build_cons {stack' : List Frame} {expect' : Expect}
    (h : step stack expect t = some (stack', expect')) :
    build stack expect (t :: ts) = build stack' expect' ts := by
  rw [build, h]

/-- A value is read as a value, and as the first item of an array. -/
def BuildsBack (room : Nat) (v : Json) : Prop :=
  ∀ stack expect rest, stack.length + room ≤ depthLimit → expect = .value ∨ expect = .firstItem →
    build stack expect (v.tokens ++ rest) = build stack (.after v) rest

/-- The items that are left of an array, behind those that are read. -/
theorem build_items {acc vs : List Json} (h : ∀ w ∈ v :: vs, BuildsBack room w)
    (hs : stack.length + (room + 1) ≤ depthLimit) (he : expect = .value ∨ expect = .firstItem) :
    build (.arr acc :: stack) expect (itemTokens (v :: vs) ++ .closeArr :: rest) =
      build stack (.after (.arr (acc.reverse ++ v :: vs))) rest := by
  have hs' (acc : List Json) : (Frame.arr acc :: stack).length + room ≤ depthLimit := by
    rw [List.length_cons]
    omega
  induction vs generalizing v acc expect with
  | nil =>
    have hv := h v (by simp)
    have hclose : step (.arr acc :: stack) (.after v) .closeArr =
      some (stack, .after (.arr (v :: acc).reverse)) := rfl
    rw [show itemTokens [v] = v.tokens from rfl, hv _ _ _ (hs' acc) he, build_cons hclose,
      List.reverse_cons]
  | cons w vs ih =>
    have hcomma : step (.arr acc :: stack) (.after v) .comma =
      some (.arr (v :: acc) :: stack, .value) := rfl
    obtain ⟨hv, hvs⟩ := List.forall_mem_cons.1 h
    rw [itemTokens_cons_cons, List.append_assoc, hv _ _ _ (hs' acc) he, List.cons_append,
      build_cons hcomma, ih hvs (.inl rfl), List.reverse_cons, List.append_assoc]
    rfl

/-- The entries that are left of an object, behind those that are read. -/
theorem build_entries {acc es : List (String × Json)} {e : String × Json} {key : String}
    (h : ∀ u ∈ e :: es, BuildsBack room u.2) (hs : stack.length + (room + 1) ≤ depthLimit)
    (he : expect = .key ∨ expect = .firstKey) :
    build (.obj acc key :: stack) expect (entryTokens (e :: es) ++ .closeObj :: rest) =
      build stack (.after (.obj (acc.reverse ++ e :: es))) rest := by
  have hs' (acc : List (String × Json)) (key : String) :
      (Frame.obj acc key :: stack).length + room ≤ depthLimit := by
    rw [List.length_cons]
    omega
  have hkey {expect : Expect} (acc : List (String × Json)) (key k : String)
      (he : expect = .key ∨ expect = .firstKey) :
      step (.obj acc key :: stack) expect (.str k) = some (.obj acc k :: stack, .colon) := by
    rcases he with rfl | rfl <;> rfl
  have hcolon (acc : List (String × Json)) (k : String) :
      step (.obj acc k :: stack) .colon .colon = some (.obj acc k :: stack, .value) := rfl
  induction es generalizing e acc key expect with
  | nil =>
    have hv := h e (by simp)
    have hclose : step (.obj acc e.1 :: stack) (.after e.2) .closeObj =
      some (stack, .after (.obj (e :: acc).reverse)) := rfl
    rw [show entryTokens [e] = .str e.1 :: .colon :: e.2.tokens from rfl, List.cons_append,
      List.cons_append, build_cons (hkey acc key e.1 he), build_cons (hcolon acc e.1),
      hv _ _ _ (hs' acc e.1) (.inl rfl), build_cons hclose, List.reverse_cons]
  | cons f es ih =>
    have hcomma : step (.obj acc e.1 :: stack) (.after e.2) .comma =
      some (.obj (e :: acc) e.1 :: stack, .key) := rfl
    obtain ⟨hv, hes⟩ := List.forall_mem_cons.1 h
    rw [entryTokens_cons_cons, List.cons_append, List.cons_append, List.append_assoc,
      build_cons (hkey acc key e.1 he), build_cons (hcolon acc e.1),
      hv _ _ _ (hs' acc e.1) (.inl rfl), List.cons_append, build_cons hcomma, ih hes (.inl rfl),
      List.reverse_cons, List.append_assoc]
    rfl

/-- The tokens of a legible value are built to the value. -/
theorem Legible.buildsBack (h : v.Legible room) : BuildsBack room v := by
  induction h with
  | null | bool | int | float | str =>
    rintro stack expect rest - (rfl | rfl) <;> rfl
  | @arr room items h ih =>
    intro stack expect rest hs he
    have hopen : step stack expect .openArr = some (.arr [] :: stack, .firstItem) := by
      have hlt : stack.length < depthLimit := by omega
      rcases he with rfl | rfl <;> exact if_pos hlt
    rw [tokens, List.append_assoc, List.cons_append, build_cons hopen]
    cases items with
    | nil => rfl
    | cons v vs => exact build_items ih hs (.inr rfl)
  | @obj room es h ih =>
    intro stack expect rest hs he
    have hopen : step stack expect .openObj = some (.obj [] "" :: stack, .firstKey) := by
      have hlt : stack.length < depthLimit := by omega
      rcases he with rfl | rfl <;> exact if_pos hlt
    rw [tokens, List.append_assoc, List.cons_append, build_cons hopen]
    cases es with
    | nil => rfl
    | cons e es => exact build_entries ih hs (.inr rfl)

/-- The text of a value is read as its tokens, whether there is room for all of them or not. -/
theorem Legible.readEntries?_eq (h : v.Legible room) :
    readEntries? v.compact = ofTokens? v.tokens := by
  have ht : tokenize? v.compact.toList = some v.tokens := by
    rw [compact, String.toList_ofList]
    exact Token.tokenize?_texts h.isRead (isChain_tokens v)
  rw [readEntries?, ht, Option.bind_some]

/-- **A value is read back from its text.** -/
theorem readEntries?_compact (h : v.Legible depthLimit) : readEntries? v.compact = some v := by
  have hb := h.buildsBack [] .value [] (by simp) (.inl rfl)
  rw [List.append_nil] at hb
  rw [h.readEntries?_eq, ofTokens?, hb]
  rfl

end Json
end AgentTool
