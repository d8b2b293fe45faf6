import AgentTool.Json.Token
import Mathlib.Data.List.TakeWhile
import Mathlib.Data.Nat.Digits.Defs

/-!
# The texts of numbers

The digits of a number stand for it, and only zero opens with a zero, so an integer of 64 bits is
read from its text as it is (`Json.number?_intText`).  A text with a point or an exponent is read
as a float (`Json.NumberParts.Valid.number?`).  If the digits of a decimal fit a word of 64 bits,
its text is read as the word of these digits, scaled by a power of ten (`Json.number?_decimalText`).
-/

namespace AgentTool
namespace Json

/-! ## Digits -/

/-- The digits of a number are digits. -/
theorem isDigit_of_mem_digitText {n : Nat} {c : Char} (h : c ∈ digitText n) : c.isDigit = true :=
  Nat.isDigit_of_mem_toDigits (by decide) (by decide) h

/-- Every number has a digit. -/
theorem digitText_ne_nil (n : Nat) : digitText n ≠ [] := Nat.toDigits_ne_nil

/-- The value of digits is that of the library. -/
theorem digitsValue_eq (cs : List Char) : digitsValue cs = Nat.ofDigitChars 10 cs 0 :=
  Nat.ofDigitChars_eq_foldl.symm

/-- The digits of a number stand for it. -/
theorem digitsValue_digitText (n : Nat) : digitsValue (digitText n) = n := by
  rw [digitsValue_eq, digitText, Nat.ofDigitChars_toDigits (by decide) (by decide)]

/-- Only the digits of zero open with a zero. -/
theorem head?_digitText {n : Nat} (hn : n ≠ 0) : (digitText n).head? ≠ some '0' := by
  induction n using Nat.strongRecOn with
  | ind n ih =>
    rw [digitText, Nat.toDigits_eq_if (by decide)]
    split
    · rename_i h
      have hd : ∀ m < 10, m ≠ 0 → [m.digitChar].head? ≠ some '0' := by decide
      exact hd n h hn
    · rename_i h
      have ih := ih (n / 10) (by omega) (by omega)
      rw [digitText] at ih
      cases hd : Nat.toDigits 10 (n / 10) with
      | nil => exact absurd hd (digitText_ne_nil (n / 10))
      | cons c cs => rwa [hd] at ih

/-- Digits that do not open with a zero are a whole part. -/
theorem isWholePart_of_head {cs : List Char} (hne : cs ≠ []) (hh : cs.head? ≠ some '0')
    (hd : ∀ c ∈ cs, c.isDigit = true) : isWholePart cs = true := by
  match cs with
  | c :: cs =>
    have hc : c ≠ '0' := fun h => hh (congrArg some h)
    rw [isWholePart.eq_3 c cs (fun h _ => hc h), List.all_eq_true.2 hd]
    simpa using hc

/-- The digits of a number are a whole part. -/
theorem isWholePart_digitText (n : Nat) : isWholePart (digitText n) = true := by
  by_cases hn : n = 0
  · subst hn
    decide
  · exact isWholePart_of_head (digitText_ne_nil n) (head?_digitText hn)
      fun _ h => isDigit_of_mem_digitText h

/-- Digits end where no digit follows. -/
theorem span_digits {ds rest : List Char} (hd : ∀ c ∈ ds, c.isDigit = true)
    (hr : ∀ c ∈ rest.head?, c.isDigit = false) :
    (ds ++ rest).takeWhile Char.isDigit = ds ∧ (ds ++ rest).dropWhile Char.isDigit = rest := by
  rw [List.takeWhile_append_of_pos hd, List.dropWhile_append_of_pos hd]
  cases rest with
  | nil => simp
  | cons c cs =>
    have hc := hr c rfl
    simp [hc]

/-! ## Signs -/

/-- A text behind the sign of a number. -/
def signed (negative : Bool) (body : List Char) : List Char :=
  (if negative then ['-'] else []) ++ body

/-- A number with a sign is read as what stands behind the sign. -/
theorem number?_signed {negative : Bool} {body : List Char} (h : body.head? ≠ some '-') :
    number? (signed negative body) = unsigned? negative body := by
  cases negative with
  | true => rfl
  | false =>
    cases body with
    | nil => rfl
    | cons c cs =>
      have hc : c ≠ '-' := fun he => h (congrArg some he)
      change number? (c :: cs) = _
      rw [number?]
      simpa using hc

/-- A whole part does not open with a sign. -/
theorem head?_ne_sign {ds rest : List Char} (hw : isWholePart ds = true)
    (hd : ∀ c ∈ ds, c.isDigit = true) : (ds ++ rest).head? ≠ some '-' := by
  cases ds with
  | nil => cases hw
  | cons c cs =>
    intro h
    have hc := hd c (by simp)
    rw [Option.some.inj h] at hc
    cases hc

/-! ## Integers -/

/-- An integer of 64 bits, with or without sign. -/
def IsWord (n : Int) : Prop := -(Nat.pow 2 63 : Nat) ≤ n ∧ n < UInt64.size

instance (n : Int) : Decidable (IsWord n) := inferInstanceAs (Decidable (_ ∧ _))

/-- The digits of a number that fits are read as the number, with its sign. -/
theorem unsigned?_digitText {negative : Bool} {n : Nat}
    (h : if negative then 0 < n ∧ n ≤ Nat.pow 2 63 else n < UInt64.size) :
    unsigned? negative (digitText n) = some (.int (if negative then -(n : Int) else n)) := by
  obtain ⟨ht, hd⟩ := @span_digits (digitText n) [] (fun _ h => isDigit_of_mem_digitText h)
    (by simp)
  rw [List.append_nil] at ht hd
  simp only [unsigned?, ht, hd, isWholePart_digitText, guard_true, pure_bind, fraction, exponent?,
    digitsValue_digitText]
  simp [h]

/-- The text of an integer is its sign and the digits of its magnitude. -/
theorem intText_eq (n : Int) : intText n = signed (decide (n < 0)) (digitText n.natAbs) := by
  rw [intText, signed]
  split <;> simp [*]

/-- **An integer is read from its text.** -/
theorem number?_intText {n : Int} (h : IsWord n) : number? (intText n) = some (.int n) := by
  have hh := @head?_ne_sign _ [] (isWholePart_digitText n.natAbs)
    fun _ h => isDigit_of_mem_digitText h
  rw [List.append_nil] at hh
  obtain ⟨hlow, hhigh⟩ := h
  have hv : (if decide (n < 0) = true then -(n.natAbs : Int) else n.natAbs) = n := by
    split <;> rename_i hn <;> rw [decide_eq_true_eq] at hn <;> omega
  rw [intText_eq, number?_signed hh, unsigned?_digitText, hv]
  split <;> rename_i hn <;> rw [decide_eq_true_eq] at hn <;> omega

/-! ## Floats -/

/-- To read more digits makes no number smaller. -/
theorem le_foldl_digits (n : Nat) (cs : List Char) :
    n ≤ cs.foldl (fun n c => 10 * n + (c.toNat - 48)) n := by
  induction cs generalizing n with
  | nil => exact le_rfl
  | cons c cs ih =>
    have hn : n ≤ 10 * n + (c.toNat - 48) := by omega
    exact hn.trans (ih _)

/-- Digits count as long as their number fits a word. -/
theorem wordOfDigits_eq {n : Nat} {cs : List Char}
    (h : cs.foldl (fun n c => 10 * n + (c.toNat - 48)) n < UInt64.size) :
    wordOfDigits n cs = (cs.foldl (fun n c => 10 * n + (c.toNat - 48)) n, []) := by
  induction cs generalizing n with
  | nil => rfl
  | cons c cs ih =>
    rw [wordOfDigits, if_pos (lt_of_le_of_lt (le_foldl_digits _ cs) h)]
    exact ih h

/-- A float whose digits fit a word is this word scaled by a power of ten. -/
theorem float?_eq {negative : Bool} {whole places : List Char}
    (h : digitsValue (whole ++ places) < UInt64.size) (e : Int) :
    float? negative whole places e =
      Binary64.ofScaled? negative (digitsValue (whole ++ places)) (e - places.length) := by
  rw [digitsValue, List.foldl_append] at h ⊢
  rw [float?, wordOfDigits_eq (lt_of_le_of_lt (le_foldl_digits _ places) h)]
  simp only [wordOfDigits_eq h, List.length_nil, Nat.cast_zero, add_zero]

/-- A number with a point or an exponent. -/
theorem unsigned?_decimal {negative : Bool} {whole rest places tail : List Char} {e : Option Int}
    (hw : isWholePart whole = true) (hd : ∀ c ∈ whole, c.isDigit = true)
    (hr : ∀ c ∈ rest.head?, c.isDigit = false) (hf : fraction rest = (places, tail))
    (hp : rest.head? = some '.' → places ≠ []) (he : exponent? tail = some e)
    (hfloat : places ≠ [] ∨ e ≠ none) :
    unsigned? negative (whole ++ rest) = (float? negative whole places (e.getD 0)).map .float := by
  obtain ⟨ht, hdrop⟩ := span_digits hd hr
  have hn (range : Prop) : ¬(places.isEmpty = true ∧ e = none ∧ range) := by
    rintro ⟨h, h', -⟩
    exact hfloat.elim (fun hne => hne (List.isEmpty_iff.1 h)) (fun hne => hne h')
  have hg : (guard (rest.head? = some '.' → places ≠ []) : Option Unit) = some () := if_pos hp
  simp only [unsigned?, ht, hdrop, hw, hf, he, guard_true, hg, pure_bind, Option.bind_eq_bind,
    Option.bind_some, if_neg (hn _)]
  exact Option.map_eq_bind.symm

/-- An exponent is read from its sign and its digits. -/
theorem exponentValue?_text (e : Int) :
    exponentValue? ((if e < 0 then '-' else '+') :: digitText e.natAbs) = some e := by
  have hd : (digitText e.natAbs).all Char.isDigit = true :=
    List.all_eq_true.2 fun _ h => isDigit_of_mem_digitText h
  have hn : (digitText e.natAbs).isEmpty = false := by
    simp [digitText_ne_nil]
  by_cases he : e < 0
  · have hv : -(e.natAbs : Int) = e := by omega
    simp only [exponentValue?, he, hd, hn, digitsValue_digitText, hv, if_true]
    rfl
  · have hv : (e.natAbs : Int) = e := by omega
    simp only [exponentValue?, he, hd, hn, digitsValue_digitText, hv, if_false]
    rfl

/-- The text of a number in parts: digits, digits behind a point, and an exponent. -/
structure NumberParts where
  whole : List Char
  places : List Char
  exponent : Option Int

namespace NumberParts

variable {p : NumberParts} {negative : Bool}

/-- The text of the exponent. -/
def power (p : NumberParts) : List Char := p.exponent.elim [] exponentText

/-- What follows the whole part. -/
def tail (p : NumberParts) : List Char :=
  (if p.places = [] then [] else '.' :: p.places) ++ p.power

/-- Digits, with a point or an exponent behind them. -/
structure Valid (p : NumberParts) : Prop where
  opens : isWholePart p.whole = true
  whole : ∀ c ∈ p.whole, c.isDigit = true
  places : ∀ c ∈ p.places, c.isDigit = true
  float : p.places ≠ [] ∨ p.exponent ≠ none

/-- The power of a text is read as the exponent that it is written from. -/
theorem exponent?_power : exponent? p.power = some p.exponent := by
  unfold power
  cases p.exponent with
  | none => rfl
  | some e => simp [exponentText, exponent?, exponentValue?_text]

/-- A power opens with its letter. -/
theorem head?_power : ∀ c ∈ p.power.head?, c = 'e' := by
  unfold power
  cases p.exponent with
  | none => simp
  | some e => simp [exponentText]

/-- What follows the digits of the whole part is a point or an exponent. -/
theorem head?_tail : ∀ c ∈ p.tail.head?, c = '.' ∧ p.places ≠ [] ∨ c = 'e' := by
  intro c hc
  by_cases hp : p.places = []
  · rw [tail, if_pos hp, List.nil_append] at hc
    exact .inr (head?_power c hc)
  · rw [tail, if_neg hp] at hc
    exact .inl ⟨(Option.some.inj hc).symm, hp⟩

/-- What stands behind the whole part is read as the places and the power. -/
theorem Valid.fraction_tail (h : p.Valid) : fraction p.tail = (p.places, p.power) := by
  by_cases hp : p.places = []
  · rw [tail, if_pos hp, List.nil_append, hp, power]
    cases p.exponent <;> rfl
  · have hs := @span_digits p.places p.power h.places fun c hc => by rw [head?_power c hc]; rfl
    rw [tail, if_neg hp, List.cons_append, fraction, hs.1, hs.2]

/-- A number with a point or an exponent is read as the float of its parts. -/
theorem Valid.number? (h : p.Valid) :
    number? (signed negative (p.whole ++ p.tail)) =
      (float? negative p.whole p.places (p.exponent.getD 0)).map .float := by
  rw [number?_signed (head?_ne_sign h.opens h.whole)]
  refine unsigned?_decimal h.opens h.whole (fun c hc => ?_) h.fraction_tail (fun hc => ?_)
    exponent?_power h.float
  · rcases head?_tail c hc with ⟨rfl, -⟩ | rfl <;> rfl
  · rcases head?_tail _ hc with ⟨-, hp⟩ | he
    · exact hp
    · cases he

end NumberParts

/-! ### Decimals -/

/-- Zeros at the end of digits are factors of ten. -/
theorem digitsValue_append_zeros (cs : List Char) (k : Nat) :
    digitsValue (cs ++ List.replicate k '0') = digitsValue cs * Nat.pow 10 k := by
  rw [digitsValue_eq, digitsValue_eq, Nat.ofDigitChars_append, Nat.ofDigitChars_replicate_zero]
  exact Nat.mul_comm _ _

/-- Zeros before digits are worth nothing. -/
theorem digitsValue_zeros_append (cs : List Char) (k : Nat) :
    digitsValue (List.replicate k '0' ++ cs) = digitsValue cs := by
  rw [digitsValue_eq, digitsValue_eq, Nat.ofDigitChars_append, Nat.ofDigitChars_replicate_zero,
    Nat.mul_zero]

/-- The parts write the digits of a number, and the exponent counts the zeros behind them. -/
structure Writes (p : NumberParts) (body : List Char) (digits : Nat) (exponent : Int) (k : Nat) :
    Prop where
  valid : p.Valid
  text : body = p.whole ++ p.tail
  digits : digitsValue (p.whole ++ p.places) = digits * Nat.pow 10 k
  exponent : p.exponent.getD 0 - p.places.length = exponent - k

/-- A number with zeros in front of the point. -/
theorem writes_zeros {n : Nat} (hn : n ≠ 0) (k : Nat) :
    Writes ⟨digitText n ++ List.replicate k '0', ['0'], none⟩
      (digitText n ++ List.replicate k '0' ++ ['.', '0']) n k (k + 1) := by
  have hd : ∀ c ∈ digitText n ++ List.replicate k '0', c.isDigit = true := by
    intro c hc
    rcases List.mem_append.1 hc with hc | hc
    · exact isDigit_of_mem_digitText hc
    · rw [List.eq_of_mem_replicate hc]
      rfl
  refine ⟨⟨?_, hd, by simp, by simp⟩, rfl, ?_, ?_⟩
  · have hne := digitText_ne_nil n
    refine isWholePart_of_head (by simp [hne]) ?_ hd
    have hh := head?_digitText hn
    cases h : digitText n with
    | nil => exact absurd h hne
    | cons c cs => rwa [h] at hh
  · have h := digitsValue_append_zeros (digitText n) (k + 1)
    rw [List.replicate_succ', ← List.append_assoc, digitsValue_digitText] at h
    exact h
  · simp

/-- The digits with zeros in front, so that there is one more of them than places. -/
def padded (n places : Nat) : List Char :=
  List.replicate (places + 1 - (digitText n).length) '0' ++ digitText n

/-- Padded digits are digits. -/
theorem isDigit_of_mem_padded {n places : Nat} {c : Char} (h : c ∈ padded n places) :
    c.isDigit = true := by
  rcases List.mem_append.1 h with h | h
  · rw [List.eq_of_mem_replicate h]
    rfl
  · exact isDigit_of_mem_digitText h

/-- Digits are padded so that one of them stands before the places. -/
theorem length_padded (n places : Nat) :
    (padded n places).length = max (digitText n).length (places + 1) := by
  rw [padded, List.length_append, List.length_replicate]
  omega

/-- What stands before the places of padded digits is a whole part. -/
theorem isWholePart_take_padded {n places : Nat} (hn : n ≠ 0) :
    isWholePart ((padded n places).take ((padded n places).length - places)) = true := by
  have hlen := length_padded n places
  by_cases hp : (digitText n).length ≤ places
  · -- a zero is put in front of the point
    obtain ⟨k, hk⟩ : ∃ k, places + 1 - (digitText n).length = k + 1 :=
      ⟨places - (digitText n).length, by omega⟩
    have hcut : (padded n places).length - places = 1 := by omega
    rw [hcut, padded, hk]
    rfl
  · have hz : places + 1 - (digitText n).length = 0 := by omega
    have hcut : (padded n places).length - places = (digitText n).length - places := by omega
    obtain ⟨k, hk⟩ : ∃ k, (digitText n).length - places = k + 1 :=
      ⟨(digitText n).length - places - 1, by omega⟩
    have hh := head?_digitText hn
    rw [hcut, hk, padded, hz, List.replicate_zero, List.nil_append]
    refine isWholePart_of_head ?_ ?_ fun c hc => isDigit_of_mem_digitText (List.mem_of_mem_take hc)
    · simp [digitText_ne_nil]
    · rwa [List.head?_take, if_neg k.succ_ne_zero]

/-- A number with a point between its digits, or in front of them. -/
theorem writes_point {n places : Nat} (hn : n ≠ 0) (hp : 0 < places) :
    ∃ p, Writes p (withPoint (digitText n) places) n (-places) 0 := by
  have hlen := length_padded n places
  have hdrop : ((padded n places).drop ((padded n places).length - places)).length = places := by
    rw [List.length_drop]
    omega
  have hne : (padded n places).drop ((padded n places).length - places) ≠ [] := by
    intro h
    rw [h] at hdrop
    exact hp.ne hdrop
  refine ⟨⟨(padded n places).take ((padded n places).length - places),
    (padded n places).drop ((padded n places).length - places), none⟩, ⟨?_, ?_, ?_, .inl hne⟩,
    ?_, ?_, ?_⟩
  · exact isWholePart_take_padded hn
  · exact fun c hc => isDigit_of_mem_padded (List.mem_of_mem_take hc)
  · exact fun c hc => isDigit_of_mem_padded (List.mem_of_mem_drop hc)
  · rw [NumberParts.tail, if_neg hne]
    exact (congrArg _ (List.append_nil _)).symm
  · rw [List.take_append_drop, padded, digitsValue_zeros_append, digitsValue_digitText]
    exact (Nat.mul_one n).symm
  · simp only [hdrop]
    simp

/-- A number with one digit in front of the point, and an exponent. -/
theorem writes_power {n : Nat} {c : Char} {cs : List Char} (hn : n ≠ 0) (h : digitText n = c :: cs)
    (e : Int) :
    Writes ⟨[c], cs, some e⟩ (c :: (if cs = [] then [] else '.' :: cs) ++ exponentText e) n
      (e - cs.length) 0 := by
  have hd : ∀ d ∈ c :: cs, d.isDigit = true := fun d hd => isDigit_of_mem_digitText (h ▸ hd)
  obtain ⟨hc, hcs⟩ := List.forall_mem_cons.1 hd
  have hh := head?_digitText hn
  rw [h] at hh
  refine ⟨⟨?_, List.forall_mem_singleton.2 hc, hcs, by simp⟩, rfl, ?_, ?_⟩
  · exact isWholePart_of_head (by simp) hh (List.forall_mem_singleton.2 hc)
  · rw [List.singleton_append, ← h, digitsValue_digitText]
    exact (Nat.mul_one n).symm
  · simp

/-- The text of a decimal, in parts; zeros are put behind the digits up to one place. -/
theorem exists_writes {d : Decimal} (hd : d.digits ≠ 0) :
    ∃ p body k, Writes p body d.digits d.exponent k ∧
      (k = 0 ∨ k = d.exponent.toNat + 1 ∧ 0 ≤ d.exponent) ∧
      decimalText d = signed d.negative body := by
  unfold decimalText signed
  simp only [if_neg hd]
  by_cases ht : -5 ≤ ((digitText d.digits).length : Int) + d.exponent - 1 ∧
      ((digitText d.digits).length : Int) + d.exponent - 1 < 16
  · rw [if_pos ht]
    by_cases he : d.exponent ≥ 0
    · obtain ⟨k, hk⟩ := Int.eq_ofNat_of_zero_le he
      rw [if_pos he, hk]
      exact ⟨_, _, _, writes_zeros hd k, .inr ⟨rfl, Int.natCast_nonneg k⟩, rfl⟩
    · obtain ⟨places, hp⟩ := Int.eq_ofNat_of_zero_le (show 0 ≤ -d.exponent by omega)
      have hexp : d.exponent = -places := by omega
      obtain ⟨p, hw⟩ := @writes_point d.digits places hd (by omega)
      rw [if_neg he, hp]
      exact ⟨p, _, _, hexp ▸ hw, .inl rfl, rfl⟩
  · obtain ⟨c, cs, hcs⟩ := List.exists_cons_of_ne_nil (digitText_ne_nil d.digits)
    have hw := writes_power hd hcs (((digitText d.digits).length : Int) + d.exponent - 1)
    have hexp : ((digitText d.digits).length : Int) + d.exponent - 1 - cs.length = d.exponent := by
      rw [hcs, List.length_cons]
      omega
    rw [hexp] at hw
    refine ⟨_, _, _, hw, .inl rfl, ?_⟩
    rw [if_neg ht, hcs]
    cases cs <;> rfl

/-- **A decimal is read as the word of its digits, scaled by its power of ten**, with zeros behind
the digits if they are written. -/
theorem number?_decimalText {d : Decimal} (hd : d.digits ≠ 0)
    (hfit : d.digits * Nat.pow 10 (d.exponent.toNat + 1) < UInt64.size) :
    ∃ k : Nat, (k = 0 ∨ k = d.exponent.toNat + 1 ∧ 0 ≤ d.exponent) ∧
      number? (decimalText d) =
        (Binary64.ofScaled? d.negative (d.digits * Nat.pow 10 k) (d.exponent - k)).map .float := by
  obtain ⟨p, body, k, hw, hk, ht⟩ := exists_writes hd
  have hle : Nat.pow 10 k ≤ Nat.pow 10 (d.exponent.toNat + 1) :=
    Nat.pow_le_pow_right (by decide) (by omega)
  have hword : digitsValue (p.whole ++ p.places) < UInt64.size := by
    rw [hw.digits]
    exact (Nat.mul_le_mul_left _ hle).trans_lt hfit
  refine ⟨k, hk, ?_⟩
  rw [ht, hw.text, hw.valid.number?, float?_eq hword, hw.digits, hw.exponent]

/-- A decimal without digits is written as zero, with its sign. -/
theorem decimalText_zero {d : Decimal} (hd : d.digits = 0) :
    decimalText d = signed d.negative (['0'] ++ ['.', '0']) := by
  rw [decimalText, if_pos hd]
  rfl

/-- Zero is read with its sign. -/
theorem number?_decimalText_zero {d : Decimal} (hd : d.digits = 0) :
    number? (decimalText d) = some (.float (.zero d.negative)) := by
  have hv : NumberParts.Valid ⟨['0'], ['0'], none⟩ := ⟨rfl, by simp, by simp, .inl (by simp)⟩
  have hz : float? d.negative ['0'] ['0'] 0 = some (.zero d.negative) := by
    cases d.negative <;> decide
  rw [decimalText_zero hd]
  exact hv.number?.trans (congrArg (Option.map Token.float) hz)

/-! ### Characters -/

/-- A text of a number: it opens with a digit or a sign. -/
def IsNumberText (cs : List Char) : Prop :=
  (∃ c ∈ cs.head?, c.isDigit = true ∨ c = '-') ∧ ∀ c ∈ cs, Lexer.isNumberChar c = true

/-- A digit may stand in a number. -/
theorem isNumberChar_of_isDigit {c : Char} (h : c.isDigit = true) :
    Lexer.isNumberChar c = true := by
  simp [Lexer.isNumberChar, h]

/-- A whole part, with a sign and what may follow in a number, is the text of a number. -/
theorem isNumberText_signed {negative : Bool} {whole rest : List Char}
    (hw : isWholePart whole = true) (hd : ∀ c ∈ whole, c.isDigit = true)
    (hr : ∀ c ∈ rest, Lexer.isNumberChar c = true) :
    IsNumberText (signed negative (whole ++ rest)) := by
  cases whole with
  | nil => cases hw
  | cons c cs =>
    have hbody : ∀ d ∈ c :: cs ++ rest, Lexer.isNumberChar d = true := by
      intro d hm
      exact (List.mem_append.1 hm).elim (fun hm => isNumberChar_of_isDigit (hd d hm)) (hr d)
    cases negative with
    | true => exact ⟨⟨'-', rfl, .inr rfl⟩, List.forall_mem_cons.2 ⟨rfl, hbody⟩⟩
    | false => exact ⟨⟨c, rfl, .inl (hd c (by simp))⟩, hbody⟩

/-- The text of an integer is the text of a number. -/
theorem isNumberText_intText (n : Int) : IsNumberText (intText n) := by
  rw [intText_eq, ← List.append_nil (digitText _)]
  exact isNumberText_signed (isWholePart_digitText _) (fun _ h => isDigit_of_mem_digitText h)
    (by simp)

/-- What stands behind the whole part may stand in a number. -/
theorem NumberParts.Valid.isNumberChar_tail {p : NumberParts} (h : p.Valid) :
    ∀ c ∈ p.tail, Lexer.isNumberChar c = true := by
  have hpower : ∀ c ∈ p.power, Lexer.isNumberChar c = true := by
    unfold power
    cases p.exponent with
    | none => simp
    | some e =>
      refine List.forall_mem_cons.2 ⟨rfl, List.forall_mem_cons.2 ⟨?_, fun c hc => ?_⟩⟩
      · split <;> rfl
      · exact isNumberChar_of_isDigit (isDigit_of_mem_digitText hc)
  intro c hc
  rcases List.mem_append.1 hc with hc | hc
  · split at hc
    · simp at hc
    · rcases List.mem_cons.1 hc with rfl | hc
      · rfl
      · exact isNumberChar_of_isDigit (h.places c hc)
  · exact hpower c hc

/-- The text of a decimal is the text of a number. -/
theorem isNumberText_decimalText (d : Decimal) : IsNumberText (decimalText d) := by
  by_cases hd : d.digits = 0
  · rw [decimalText_zero hd]
    exact isNumberText_signed rfl (by simp) (by simp [Lexer.isNumberChar])
  · obtain ⟨p, body, k, hw, -, ht⟩ := exists_writes hd
    rw [ht, hw.text]
    exact isNumberText_signed hw.valid.opens hw.valid.whole hw.valid.isNumberChar_tail

end Json
end AgentTool
