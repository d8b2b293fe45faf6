import AgentTool.Decimal.Scaling
import AgentTool.Decimal.Shortest
import AgentTool.Proofs.NumberText
import Mathlib.Algebra.Order.Field.Power
import Mathlib.Data.Rat.Cast.Order
import Mathlib.Tactic.FieldSimp
import Mathlib.Tactic.Linarith

/-!
# Floats are read back from their texts

The numbers that round to a value fill an interval around it, and `Binary64.readsBack` tests
whether a decimal is in it (`Binary64.readsBack_iff`).  Whatever is in it is rounded to the value
(`Decimal.nearest?_of_rounds`).  The shortest decimal of a value is chosen by that test, or is the
value itself, so the value is the nearest one to it (`Binary64.nearest?_shortest`).

A text is read by scaling, which rounds more than once.  If the digits and the power of ten are
both exact, only the last rounding counts, so that a value with a short decimal is read back from
its text (`Json.number?_floatText`).  Other values may come back changed.
-/

namespace AgentTool

/-! ## Powers -/

/-- A power times the natural power of the opposite exponent is the natural power of the exponent.
-/
theorem zpow_mul_toNat {b : ℚ} (hb : b ≠ 0) (i : ℤ) : b ^ i * b ^ (-i).toNat = b ^ i.toNat := by
  rw [← zpow_natCast, ← zpow_natCast, ← zpow_add₀ hb]
  congr 1
  omega

namespace Binary64

variable {x : Binary64} {v : ℚ} {a n digits : ℕ} {i j e : ℤ}

/-- The natural numbers that are compared are the two sides, times the same positive factor. -/
theorem compareScaled_sides (a n : ℕ) (i j : ℤ) :
    ∃ c : ℚ, 0 < c ∧
      ((a * Nat.pow 10 i.toNat * Nat.pow 2 (-j).toNat : ℕ) : ℚ) = a * 10 ^ i * c ∧
      ((n * Nat.pow 2 j.toNat * Nat.pow 10 (-i).toNat : ℕ) : ℚ) = n * 2 ^ j * c := by
  refine ⟨10 ^ (-i).toNat * 2 ^ (-j).toNat, by positivity, ?_, ?_⟩
  · simp only [Nat.pow_eq, Nat.cast_mul, Nat.cast_pow, Nat.cast_ofNat]
    rw [← zpow_mul_toNat (b := 10) (by norm_num) i]
    ring
  · simp only [Nat.pow_eq, Nat.cast_mul, Nat.cast_pow, Nat.cast_ofNat]
    rw [← zpow_mul_toNat (b := 2) (by norm_num) j]
    ring

/-- The comparison says that the decimal is below the binary number exactly if it is. -/
theorem compareScaled_lt : compareScaled a i n j = .lt ↔ (a : ℚ) * 10 ^ i < n * 2 ^ j := by
  obtain ⟨c, hc, ha, hn⟩ := compareScaled_sides a n i j
  rw [compareScaled, Nat.compare_eq_lt, ← Nat.cast_lt (α := ℚ), ha, hn]
  exact mul_lt_mul_iff_left₀ hc

/-- The comparison says that the decimal is above the binary number exactly if it is. -/
theorem compareScaled_gt : compareScaled a i n j = .gt ↔ (n : ℚ) * 2 ^ j < a * 10 ^ i := by
  obtain ⟨c, hc, ha, hn⟩ := compareScaled_sides a n i j
  rw [compareScaled, Nat.compare_eq_gt, ← Nat.cast_lt (α := ℚ), ha, hn]
  exact mul_lt_mul_iff_left₀ hc

/-- The comparison says that the two numbers are equal exactly if they are. -/
theorem compareScaled_eq : compareScaled a i n j = .eq ↔ (a : ℚ) * 10 ^ i = n * 2 ^ j := by
  obtain ⟨c, hc, ha, hn⟩ := compareScaled_sides a n i j
  rw [compareScaled, Nat.compare_eq_eq, ← Nat.cast_inj (R := ℚ), ha, hn]
  exact mul_left_inj' hc.ne'

/-! ## The interval of a value -/

/-- The lower end of the interval, in quarters of the last place. -/
def low (x : Binary64) : ℕ :=
  if x.narrowBelow then 4 * x.significand - 1 else 4 * x.significand - 2

/-- A number lies among those that round to the value; the ends do if the value is even. -/
structure Rounds (x : Binary64) (v : ℚ) : Prop where
  low : x.low * 2 ^ (x.exponent - 2) < v ∨
    x.significand % 2 = 0 ∧ v = x.low * 2 ^ (x.exponent - 2)
  high : v < (4 * x.significand + 2 : ℕ) * 2 ^ (x.exponent - 2) ∨
    x.significand % 2 = 0 ∧ v = (4 * x.significand + 2 : ℕ) * 2 ^ (x.exponent - 2)

/-- The test whether a decimal reads back tells whether it is in the interval of the value. -/
theorem readsBack_iff : x.readsBack digits e = true ↔ x.Rounds (digits * 10 ^ e) := by
  unfold readsBack
  simp only [Bool.and_eq_true, Bool.or_eq_true, beq_iff_eq, compareScaled_lt, compareScaled_gt,
    compareScaled_eq]
  exact ⟨fun h => ⟨h.1, h.2⟩, fun h => ⟨h.low, h.high⟩⟩

end Binary64

/-! ## Rounding -/

/-- A quotient rounds to the number that it is nearest to, and half way to the even one. -/
theorem roundHalfEven_eq {n d m : ℕ} (hd : 0 < d)
    (hlow : 2 * m * d < 2 * n + d ∨ m % 2 = 0 ∧ 2 * m * d = 2 * n + d)
    (hhigh : 2 * n < 2 * m * d + d ∨ m % 2 = 0 ∧ 2 * n = 2 * m * d + d) :
    roundHalfEven n d = m := by
  have hn : d * (n / d) + n % d = n := Nat.div_add_mod n d
  have hr : n % d < d := Nat.mod_lt n hd
  have hm : 2 * m * d = 2 * (d * m) := by ring
  unfold roundHalfEven
  generalize n / d = q at *
  generalize n % d = r at *
  rw [hm] at hlow hhigh
  -- the number is the quotient or the next one, whatever it is nearest to
  have hcases : m = q ∨ m = q + 1 := by
    by_contra! hne
    rcases lt_or_gt_of_ne hne.1 with h | h
    · have := Nat.mul_le_mul_left d (show m + 1 ≤ q from h)
      rw [Nat.mul_add, Nat.mul_one] at this
      omega
    · have := Nat.mul_le_mul_left d (show q + 2 ≤ m by omega)
      rw [Nat.mul_add] at this
      omega
  rcases hcases with rfl | rfl
  · grind
  · rw [Nat.mul_add, Nat.mul_one] at hlow hhigh
    grind

namespace Decimal

variable {num den : ℕ} {v : ℚ} {p q : ℤ}

/-- The exponent at which a number has a significand of 53 bits, or the least exponent if the
significand is shorter. -/
structure HasExponent (v : ℚ) (q : ℤ) : Prop where
  least : -1074 ≤ q
  low : 2 ^ (q + 52) ≤ v ∨ q = -1074
  high : v < 2 ^ (q + 53)

/-- A number is at only one exponent. -/
theorem HasExponent.unique (hp : HasExponent v p) (hq : HasExponent v q) : p = q := by
  have hle {p q : ℤ} (hp : HasExponent v p) (hq : HasExponent v q) : p ≤ q := by
    rcases hp.low with h | h
    · have h2 : (2 : ℚ) ^ (p + 52) < 2 ^ (q + 53) := h.trans_lt hq.high
      have := (zpow_lt_zpow_iff_right₀ (by norm_num : (1 : ℚ) < 2)).1 h2
      omega
    · exact h ▸ hq.least
  exact le_antisymm (hle hp hq) (hle hq hp)

/-- A number lies between the powers of two around its logarithm. -/
theorem log2_bounds {n : ℕ} (hn : 0 < n) :
    (2 : ℚ) ^ (Nat.log2 n : ℤ) ≤ n ∧ (n : ℚ) < 2 ^ ((Nat.log2 n : ℤ) + 1) := by
  constructor
  · rw [zpow_natCast]
    exact_mod_cast Nat.log2_self_le hn.ne'
  · exact_mod_cast (Nat.lt_log2_self : n < 2 ^ (Nat.log2 n + 1))

/-- The quotient of the two sides is the number over the power. -/
theorem overPower_sides (num den : ℕ) (q : ℤ) :
    ∃ c : ℚ, 0 < c ∧ ((overPower num den q).1 : ℚ) = num * c ∧
      ((overPower num den q).2 : ℚ) = den * 2 ^ q * c := by
  refine ⟨2 ^ (-q).toNat, by positivity, ?_, ?_⟩
  · simp [overPower]
  · rw [mul_assoc, zpow_mul_toNat (by norm_num)]
    simp [overPower]

/-- The scaled fraction is below a power of two exactly if the number is below that power at the
exponent. -/
theorem overPower_lt {k : ℕ} (hd : 0 < den) :
    (overPower num den q).1 < (overPower num den q).2 * Nat.pow 2 k ↔
      (num / den : ℚ) < 2 ^ (q + k) := by
  obtain ⟨c, hc, hn, hden⟩ := overPower_sides num den q
  have hd' : (0 : ℚ) < den := Nat.cast_pos.2 hd
  rw [div_lt_iff₀ hd', ← Nat.cast_lt (α := ℚ), Nat.cast_mul, hn, hden, Nat.pow_eq, Nat.cast_pow,
    Nat.cast_ofNat, zpow_add₀ (by norm_num), zpow_natCast]
  have hside : (den : ℚ) * 2 ^ q * c * 2 ^ k = 2 ^ q * 2 ^ k * den * c := by ring
  rw [hside, mul_lt_mul_iff_left₀ hc]

/-- The exponent that is chosen for a fraction is the exponent of the number. -/
theorem hasExponent_binaryExponent (hn : 0 < num) (hd : 0 < den) :
    HasExponent (num / den) (binaryExponent num den) := by
  have hd' : (0 : ℚ) < den := Nat.cast_pos.2 hd
  obtain ⟨hn₁, hn₂⟩ := log2_bounds hn
  obtain ⟨hd₁, hd₂⟩ := log2_bounds hd
  have hmono {i j : ℤ} (h : i ≤ j) : (2 : ℚ) ^ i ≤ 2 ^ j := zpow_le_zpow_right₀ (by norm_num) h
  -- the logarithms tell the number up to a factor of four
  have hlow : (2 : ℚ) ^ ((Nat.log2 num : ℤ) - Nat.log2 den - 1) ≤ num / den := by
    rw [le_div_iff₀ hd']
    calc (2 : ℚ) ^ ((Nat.log2 num : ℤ) - Nat.log2 den - 1) * den
        ≤ 2 ^ ((Nat.log2 num : ℤ) - Nat.log2 den - 1) * 2 ^ ((Nat.log2 den : ℤ) + 1) :=
          mul_le_mul_of_nonneg_left hd₂.le (by positivity)
      _ = 2 ^ (Nat.log2 num : ℤ) := by
          rw [← zpow_add₀ (by norm_num)]
          congr 1
          ring
      _ ≤ num := hn₁
  have hhigh : (num / den : ℚ) < 2 ^ ((Nat.log2 num : ℤ) - Nat.log2 den + 1) := by
    rw [div_lt_iff₀ hd']
    calc (num : ℚ) < 2 ^ ((Nat.log2 num : ℤ) + 1) := hn₂
      _ = 2 ^ ((Nat.log2 num : ℤ) - Nat.log2 den + 1) * 2 ^ (Nat.log2 den : ℤ) := by
          rw [← zpow_add₀ (by norm_num)]
          congr 1
          ring
      _ ≤ 2 ^ ((Nat.log2 num : ℤ) - Nat.log2 den + 1) * den :=
          mul_le_mul_of_nonneg_left hd₁ (by positivity)
  unfold binaryExponent
  simp only [overPower_lt hd]
  split
  · rename_i h
    refine ⟨le_max_right _ _, ?_, h⟩
    rcases le_total (-1074) ((Nat.log2 num : ℤ) - Nat.log2 den - 53) with hle | hle
    · rw [max_eq_left hle]
      exact .inl ((hmono (by omega)).trans hlow)
    · exact .inr (max_eq_right hle)
  · rename_i h
    have hmax := le_max_left ((Nat.log2 num : ℤ) - Nat.log2 den - 53) (-1074)
    have hleast := le_max_right ((Nat.log2 num : ℤ) - Nat.log2 den - 53) (-1074)
    refine ⟨by omega, .inl ((hmono (by omega)).trans (not_lt.1 h)), hhigh.trans_le (hmono ?_)⟩
    omega

end Decimal

/-! ## What rounds to a value -/

namespace Binary64

variable {x : Binary64} {v : ℚ} {num den : ℕ}

/-- A unit of the last place is four quarters of it. -/
theorem zpow_exponent (x : Binary64) : (2 : ℚ) ^ x.exponent = 4 * 2 ^ (x.exponent - 2) := by
  rw [zpow_sub₀ (by norm_num)]
  ring

/-- Half a unit of a value is two quarters of it. -/
theorem zpow_pred_exponent (x : Binary64) :
    (2 : ℚ) ^ (x.exponent - 1) = 2 * 2 ^ (x.exponent - 2) := by
  rw [zpow_sub₀ (by norm_num), zpow_sub₀ (by norm_num)]
  ring

/-- A power above the exponent of a value is four times that power of quarters. -/
theorem zpow_exponent_add (x : Binary64) (k : ℤ) :
    (2 : ℚ) ^ (x.exponent + k) = 4 * 2 ^ k * 2 ^ (x.exponent - 2) := by
  rw [zpow_add₀ (by norm_num), zpow_exponent]
  ring

/-- Where the interval is narrow, it reaches less than half a unit below the value. -/
theorem lt_low (hx : x.significand ≠ 0) (hb : x.narrowBelow = true) :
    (4 * x.significand - 2 : ℚ) < x.low := by
  rw [low, if_pos hb, Nat.cast_sub (by omega)]
  push_cast
  linarith

/-- Elsewhere the interval reaches half a unit below the value. -/
theorem low_eq (hx : x.significand ≠ 0) (hb : ¬x.narrowBelow = true) :
    (x.low : ℚ) = 4 * x.significand - 2 := by
  rw [low, if_neg hb, Nat.cast_sub (by omega)]
  push_cast
  rfl

/-- The lower end is at most half a unit away. -/
theorem Rounds.half_low (hx : x.significand ≠ 0) (h : x.Rounds v) :
    (4 * x.significand - 2 : ℚ) * 2 ^ (x.exponent - 2) < v ∨
      x.significand % 2 = 0 ∧ v = (4 * x.significand - 2 : ℚ) * 2 ^ (x.exponent - 2) := by
  have hw : (0 : ℚ) < 2 ^ (x.exponent - 2) := by positivity
  by_cases hb : x.narrowBelow = true
  · have hlt := mul_lt_mul_of_pos_right (lt_low hx hb) hw
    exact .inl (h.low.elim hlt.trans fun he => he.2 ▸ hlt)
  · exact low_eq hx hb ▸ h.low

/-- Sides in quarters of the last place, freed of the power and of the denominator. -/
theorem scaled_iff {w : ℚ} (hw : 0 < w) {n d : ℕ} (hd : 0 < d) (a k : ℚ) :
    (a * w < n / d * (k * w) ↔ a * d < k * n) ∧ (n / d * (k * w) < a * w ↔ k * n < a * d) ∧
      (n / d * (k * w) = a * w ↔ k * n = a * d) := by
  have hd' : (0 : ℚ) < d := Nat.cast_pos.2 hd
  have hside : (n / d : ℚ) * (k * w) = k * n / d * w := by ring
  rw [hside, mul_lt_mul_iff_left₀ hw, mul_lt_mul_iff_left₀ hw, mul_left_inj' hw.ne',
    lt_div_iff₀ hd', div_lt_iff₀ hd', div_eq_iff hd'.ne']
  exact ⟨Iff.rfl, Iff.rfl, Iff.rfl⟩

/-- A number at the exponent of the value. -/
theorem Rounds.round_eq (hx : x.significand ≠ 0) (h : x.Rounds v) {n d : ℕ} (hd : 0 < d)
    (hv : v = n / d * 2 ^ x.exponent) : roundHalfEven n d = x.significand := by
  have hw : (0 : ℚ) < 2 ^ (x.exponent - 2) := by positivity
  have hlow := h.half_low hx
  have hhigh := h.high
  rw [hv, zpow_exponent] at hlow hhigh
  simp only [(scaled_iff hw hd _ 4).1, (scaled_iff hw hd _ 4).2.1, (scaled_iff hw hd _ 4).2.2]
    at hlow hhigh
  apply roundHalfEven_eq hd
  · refine hlow.imp (fun hl => ?_) (And.imp_right fun he => ?_)
    · have hl' : (2 * x.significand * d : ℚ) < 2 * n + d := by linarith
      exact_mod_cast hl'
    · have he' : (2 * x.significand * d : ℚ) = 2 * n + d := by linarith
      exact_mod_cast he'
  · push_cast at hhigh
    refine hhigh.imp (fun hl => ?_) (And.imp_right fun he => ?_)
    · have hl' : (2 * n : ℚ) < 2 * x.significand * d + d := by linarith
      exact_mod_cast hl'
    · have he' : (2 * n : ℚ) = 2 * x.significand * d + d := by linarith
      exact_mod_cast he'

/-- The interval is narrow below the least significand of an exponent that is not the least. -/
theorem significand_of_narrowBelow (hb : x.narrowBelow = true) :
    x.significand = Nat.pow 2 52 ∧ -1074 < x.exponent := by
  rw [narrowBelow, Bool.and_eq_true, beq_iff_eq, decide_eq_true_eq] at hb
  exact hb

/-- What rounds to a value is not below the interval. -/
theorem Rounds.low_le (h : x.Rounds v) : x.low * 2 ^ (x.exponent - 2) ≤ v :=
  h.low.elim le_of_lt fun he => he.2.ge

/-- What rounds to a value is not above the interval. -/
theorem Rounds.le_high (h : x.Rounds v) :
    v ≤ (4 * x.significand + 2 : ℕ) * 2 ^ (x.exponent - 2) :=
  h.high.elim le_of_lt fun he => he.2.le

/-- Below a power of two, at the next lower exponent. -/
theorem Rounds.round_eq_top (h : x.Rounds v) (hb : x.narrowBelow = true) {n d : ℕ} (hd : 0 < d)
    (hv : v = n / d * 2 ^ (x.exponent - 1)) (hlt : v < 2 ^ (x.exponent + 52)) :
    roundHalfEven n d = Nat.pow 2 53 := by
  have hw : (0 : ℚ) < 2 ^ (x.exponent - 2) := by positivity
  have hm := (significand_of_narrowBelow hb).1
  have hlow : (x.low : ℚ) = 2 ^ 54 - 1 := by
    rw [Binary64.low, if_pos hb, hm]
    norm_num
  have hle := h.low_le
  rw [hlow, hv, zpow_pred_exponent, ← not_lt, (scaled_iff hw hd _ 2).2.1, not_lt] at hle
  rw [hv, zpow_pred_exponent, zpow_exponent_add x 52, (scaled_iff hw hd _ 2).2.1] at hlt
  apply roundHalfEven_eq hd
  · have hl : (2 * 2 ^ 53 * d : ℚ) ≤ 2 * n + d := by linarith
    have hl' : 2 * 2 ^ 53 * d ≤ 2 * n + d := by exact_mod_cast hl
    exact (lt_or_eq_of_le hl').imp_right fun he => ⟨rfl, he⟩
  · have hd' : (0 : ℚ) < d := Nat.cast_pos.2 hd
    have hl : (2 * n : ℚ) < 2 * 2 ^ 53 * d + d := by linarith
    exact .inl (by exact_mod_cast hl)

/-- A number of the interval has the exponent of the value, or is just below a power of two and
has the next lower one. -/
theorem Rounds.hasExponent (hx : x.significand ≠ 0) (h : x.Rounds v) :
    Decimal.HasExponent v x.exponent ∨
      x.narrowBelow = true ∧ v < 2 ^ (x.exponent + 52) ∧
        Decimal.HasExponent v (x.exponent - 1) := by
  have hw : (0 : ℚ) < 2 ^ (x.exponent - 2) := by positivity
  obtain ⟨hm, hleast, -, hnormal⟩ := x.canonical
  have hhigh : v < 2 ^ (x.exponent + 53) := by
    rw [zpow_exponent_add]
    refine h.le_high.trans_lt (mul_lt_mul_of_pos_right ?_ hw)
    have hm' : x.significand + 1 ≤ 2 ^ 53 := hm
    have hm'' : (x.significand : ℚ) + 1 ≤ 2 ^ 53 := by exact_mod_cast hm'
    push_cast
    norm_num at hm'' ⊢
    linarith
  by_cases hbelow : 2 ^ (x.exponent + 52) ≤ v ∨ x.exponent = -1074
  · exact .inl ⟨hleast, hbelow, hhigh⟩
  · rw [not_or, not_le] at hbelow
    obtain ⟨hlt, hne⟩ := hbelow
    have hnormal : 2 ^ 52 ≤ x.significand := hnormal.resolve_right hne
    have hle := h.low_le.trans_lt hlt
    rw [zpow_exponent_add, mul_lt_mul_iff_left₀ hw] at hle
    have hb : x.narrowBelow = true := by
      by_contra hb
      have hm : x.significand ≠ 2 ^ 52 := fun hm => hb (by simp [narrowBelow, hm]; omega)
      have hgt : (2 ^ 52 + 1 : ℚ) ≤ x.significand := by
        exact_mod_cast (show 2 ^ 52 + 1 ≤ x.significand by omega)
      rw [low_eq hx hb] at hle
      norm_num at hle
      linarith
    refine .inr ⟨hb, hlt, by omega, .inl ?_, ?_⟩
    · have hlow : (x.low : ℚ) = 2 ^ 54 - 1 := by
        rw [Binary64.low, if_pos hb, (significand_of_narrowBelow hb).1]
        norm_num
      have hexp : x.exponent - 1 + 52 = x.exponent + 51 := by ring
      rw [hexp, zpow_exponent_add]
      refine le_trans (mul_le_mul_of_nonneg_right ?_ hw.le) h.low_le
      rw [hlow]
      norm_num
    · have hexp : x.exponent - 1 + 53 = x.exponent + 52 := by ring
      rwa [hexp]

/-- The scaled denominator is positive. -/
theorem overPower_snd_pos (q : ℤ) (hd : 0 < den) : 0 < (Decimal.overPower num den q).2 :=
  Nat.mul_pos hd (Nat.pow_pos (by decide))

/-- The scaled fraction, at its exponent, is the fraction. -/
theorem eq_overPower (q : ℤ) (hd : 0 < den) :
    (num / den : ℚ) =
      (Decimal.overPower num den q).1 / (Decimal.overPower num den q).2 * 2 ^ q := by
  obtain ⟨c, hc, hnum, hden⟩ := Decimal.overPower_sides num den q
  have hd' : (den : ℚ) ≠ 0 := Nat.cast_ne_zero.2 hd.ne'
  rw [hnum, hden]
  field_simp

/-- A value is made from its parts. -/
theorem ofParts?_eq (x : Binary64) : ofParts? x.negative x.significand x.exponent = some x :=
  dif_pos x.canonical

/-- **What lies in the interval of a value is rounded to the value.** -/
theorem Rounds.ratioNearest? (hx : x.significand ≠ 0) (hn : 0 < num) (hd : 0 < den)
    (h : x.Rounds (num / den)) : Decimal.ratioNearest? x.negative num den = some x := by
  have hexp := Decimal.hasExponent_binaryExponent hn hd
  unfold Decimal.ratioNearest?
  rcases h.hasExponent hx with he | ⟨hb, hlt, he⟩
  · have hm := h.round_eq hx (overPower_snd_pos _ hd) (eq_overPower _ hd)
    simp only [hexp.unique he, hm, if_neg x.canonical.1.ne]
    exact x.ofParts?_eq
  · have hm := h.round_eq_top hb (overPower_snd_pos _ hd) (eq_overPower _ hd) hlt
    have hback : x.exponent - 1 + 1 = x.exponent := by ring
    simp only [hexp.unique he, hm, if_true, ← (significand_of_narrowBelow hb).1, hback]
    exact x.ofParts?_eq

/-- The interval of a value other than zero starts above the least quarters. -/
theorem two_le_low (hx : x.significand ≠ 0) : 2 ≤ x.low := by
  unfold low
  split <;> omega

/-- The least value is above the decimals that are taken for zero. -/
theorem pow_1075_lt : (2 : ℚ) ^ 1075 < 10 ^ 330 := by
  have h : ((2 : ℚ) ^ 215) ^ 5 < (10 ^ 66) ^ 5 :=
    pow_lt_pow_left₀ (by norm_num) (by positivity) (by norm_num)
  rwa [← pow_mul, ← pow_mul] at h

/-- The greatest value is below the decimals that are taken for too large. -/
theorem pow_1025_lt : (2 : ℚ) ^ 1025 < 10 ^ 310 := by
  have h : ((2 : ℚ) ^ 205) ^ 5 < (10 ^ 62) ^ 5 :=
    pow_lt_pow_left₀ (by norm_num) (by positivity) (by norm_num)
  rwa [← pow_mul, ← pow_mul] at h

/-- The interval of a value lies within the range of the format. -/
theorem Rounds.bounds (hx : x.significand ≠ 0) (h : x.Rounds v) :
    (10 : ℚ) ^ (-330 : ℤ) < v ∧ v < 10 ^ (310 : ℤ) := by
  obtain ⟨hm, hleast, hmost, -⟩ := x.canonical
  have hmono {i j : ℤ} (h : i ≤ j) : (2 : ℚ) ^ i ≤ 2 ^ j := zpow_le_zpow_right₀ (by norm_num) h
  constructor
  · calc (10 : ℚ) ^ (-330 : ℤ) = (10 ^ 330)⁻¹ := by rw [zpow_neg, zpow_ofNat]
      _ < (2 ^ 1075)⁻¹ := inv_strictAnti₀ (by positivity) pow_1075_lt
      _ = 2 * 2 ^ (-1076 : ℤ) := by
          have hexp : (1 + -1076 : ℤ) = -1075 := rfl
          rw [← zpow_one_add₀ (by norm_num), hexp, zpow_neg, zpow_ofNat]
      _ ≤ x.low * 2 ^ (x.exponent - 2) :=
        mul_le_mul (by exact_mod_cast two_le_low hx) (hmono (by omega)) (by positivity)
          (by positivity)
      _ ≤ v := h.low_le
  · have hm' : 4 * x.significand + 2 ≤ 2 ^ 55 := by
      have : x.significand < 2 ^ 53 := hm
      omega
    calc v ≤ (4 * x.significand + 2 : ℕ) * 2 ^ (x.exponent - 2) := h.le_high
      _ ≤ 2 ^ 55 * 2 ^ (970 : ℤ) :=
        mul_le_mul (by exact_mod_cast hm') (hmono (by omega)) (by positivity) (by positivity)
      _ = 2 ^ 1025 := by rw [zpow_ofNat, ← pow_add]
      _ < 10 ^ (310 : ℤ) := by rw [zpow_ofNat]; exact pow_1025_lt

end Binary64

namespace Decimal

variable {x : Binary64} {d : Decimal}

/-- A number lies between the powers of ten around the count of its digits. -/
theorem digitCount_bounds {n : ℕ} (hn : n ≠ 0) :
    (10 : ℚ) ^ ((digitCount n : ℤ) - 1) ≤ n ∧ (n : ℚ) < 10 ^ (digitCount n : ℤ) := by
  have hpos : 0 < digitCount n := Nat.length_toDigits_pos
  constructor
  · obtain ⟨k, hk⟩ : ∃ k, digitCount n = k + 1 := ⟨digitCount n - 1, by omega⟩
    have hle : 10 ^ k ≤ n := by
      by_cases h : k = 0
      · rw [h]
        exact Nat.one_le_iff_ne_zero.2 hn
      · refine not_lt.1 fun hlt => ?_
        have := (Nat.length_toDigits_le_iff (by decide) (Nat.pos_of_ne_zero h)).2 hlt
        rw [digitCount] at hk
        omega
    rw [hk, Nat.cast_succ, add_sub_cancel_right, zpow_natCast]
    exact_mod_cast hle
  · have hlt := (Nat.length_toDigits_le_iff (by decide) hpos).1 (le_refl (digitCount n))
    rw [zpow_natCast]
    exact_mod_cast hlt

/-- A decimal that rounds to a value other than zero has a digit other than zero. -/
theorem digits_ne_zero_of_rounds (hx : x.significand ≠ 0)
    (h : x.Rounds (d.digits * 10 ^ d.exponent)) : d.digits ≠ 0 := by
  intro hd
  have hlow := (h.bounds hx).1
  rw [hd, Nat.cast_zero, zero_mul] at hlow
  exact absurd hlow (not_lt.2 (by positivity))

/-- **A decimal in the interval of a value is read as the value.** -/
theorem nearest?_of_rounds (hx : x.significand ≠ 0) (hs : d.negative = x.negative)
    (h : x.Rounds (d.digits * 10 ^ d.exponent)) : d.nearest? = some x := by
  have hd := digits_ne_zero_of_rounds hx h
  obtain ⟨hlow, hhigh⟩ := h.bounds hx
  obtain ⟨hcount, hcount'⟩ := digitCount_bounds hd
  have hten : (0 : ℚ) < 10 ^ d.exponent := by positivity
  have hmono {i j : ℤ} (h : i ≤ j) : (10 : ℚ) ^ i ≤ 10 ^ j := zpow_le_zpow_right₀ (by norm_num) h
  have hmost : ¬310 < (digitCount d.digits : ℤ) + d.exponent := by
    intro hgt
    have hle : (10 : ℚ) ^ (310 : ℤ) ≤ 10 ^ ((digitCount d.digits : ℤ) - 1) * 10 ^ d.exponent := by
      rw [← zpow_add₀ (by norm_num)]
      exact hmono (by omega)
    exact absurd hhigh (not_lt.2 (hle.trans (mul_le_mul_of_nonneg_right hcount hten.le)))
  have hleast : ¬(digitCount d.digits : ℤ) + d.exponent < -330 := by
    intro hlt
    have hle : (10 : ℚ) ^ (digitCount d.digits : ℤ) * 10 ^ d.exponent ≤ 10 ^ (-330 : ℤ) := by
      rw [← zpow_add₀ (by norm_num)]
      exact hmono (by omega)
    exact absurd hlow (not_lt.2 ((mul_le_mul_of_nonneg_right hcount'.le hten.le).trans hle))
  have hvalue : (d.digits * 10 ^ d.exponent : ℚ) =
      (d.digits * Nat.pow 10 d.exponent.toNat : ℕ) / (Nat.pow 10 (-d.exponent).toNat : ℕ) := by
    simp only [Nat.pow_eq, Nat.cast_mul, Nat.cast_pow, Nat.cast_ofNat]
    rw [eq_div_iff (by positivity), mul_assoc, zpow_mul_toNat (by norm_num)]
  rw [hvalue] at h
  have hnum : 0 < d.digits * Nat.pow 10 d.exponent.toNat :=
    Nat.mul_pos (Nat.pos_of_ne_zero hd) (Nat.pow_pos (by decide))
  rw [nearest?, if_neg hd, hs]
  simp only [gt_iff_lt, if_neg hmost, if_neg hleast]
  exact h.ratioNearest? hx hnum (Nat.pow_pos (by decide))

end Decimal

/-! ## The shortest decimal -/

namespace Binary64

variable {x : Binary64}

/-- What is found on a grid of decimals reads back. -/
theorem readsBack_of_onGrid? {e : ℤ} {digits : ℕ} (h : x.onGrid? e = some digits) :
    x.readsBack digits e = true := by
  unfold onGrid? at h
  simp only at h
  split at h
  · rename_i hb _
    exact Option.some.inj h ▸ hb
  · rename_i _ ha
    exact Option.some.inj h ▸ ha
  · cases h
  · rename_i hb ha
    -- both neighbours read back, and the nearer one is taken
    split at h
    · exact Option.some.inj h ▸ hb
    · exact Option.some.inj h ▸ ha
    · split at h
      · exact Option.some.inj h ▸ hb
      · exact Option.some.inj h ▸ ha

/-- A value lies in its interval. -/
theorem rounds_self (hx : x.significand ≠ 0) : x.Rounds (x.significand * 2 ^ x.exponent) := by
  have hw : (0 : ℚ) < 2 ^ (x.exponent - 2) := by positivity
  have hv : (x.significand * 2 ^ x.exponent : ℚ) = (4 * x.significand : ℕ) * 2 ^ (x.exponent - 2) := by
    rw [zpow_exponent]
    push_cast
    ring
  have hlow : x.low < 4 * x.significand := by
    unfold low
    split <;> omega
  rw [hv]
  exact ⟨.inl (mul_lt_mul_of_pos_right (Nat.cast_lt.2 hlow) hw),
    .inl (mul_lt_mul_of_pos_right (Nat.cast_lt.2 (by omega)) hw)⟩

/-- The exact decimal of a value. -/
theorem exact_value (x : Binary64) :
    (x.exact.1 : ℚ) * 10 ^ x.exact.2 = x.significand * 2 ^ x.exponent := by
  have hten (k : ℤ) : (10 : ℚ) ^ k = 2 ^ k * 5 ^ k := by
    rw [← mul_zpow]
    norm_num
  simp only [exact, Nat.pow_eq, Nat.cast_mul, Nat.cast_pow, Nat.cast_ofNat]
  rcases le_total 0 x.exponent with h | h
  · obtain ⟨k, hk⟩ := Int.eq_ofNat_of_zero_le h
    simp [hk]
  · obtain ⟨k, hk⟩ := Int.eq_ofNat_of_zero_le (neg_nonneg.2 h)
    have he : x.exponent = -k := by omega
    have h5 : (5 : ℚ) ^ k ≠ 0 := by positivity
    rw [hten, he]
    simp
    field_simp

/-- Without the zeros at its end a decimal is worth the same. -/
theorem stripZeros_value (fuel digits : ℕ) (exponent : ℤ) :
    ((stripZeros fuel digits exponent).1 : ℚ) * 10 ^ (stripZeros fuel digits exponent).2 =
      digits * 10 ^ exponent := by
  induction fuel generalizing digits exponent with
  | zero => rfl
  | succ fuel ih =>
    rw [stripZeros]
    split
    · rename_i h
      have hd : (digits : ℚ) = (digits / 10 : ℕ) * 10 := by
        exact_mod_cast (Nat.div_mul_cancel (Nat.dvd_of_mod_eq_zero h.2)).symm
      rw [ih, zpow_add_one₀ (by norm_num), hd]
      ring
    · rfl

/-- The shortest decimal of a value lies in its interval. -/
theorem rounds_shortest (hx : x.significand ≠ 0) :
    x.Rounds (x.shortest.digits * 10 ^ x.shortest.exponent) := by
  have hz : x.isZero = false := by simpa [isZero] using hx
  have hexact : x.Rounds (x.exact.1 * 10 ^ x.exact.2) := x.exact_value ▸ rounds_self hx
  unfold shortest
  simp only [hz, Bool.false_eq_true, if_false, stripZeros_value]
  generalize hf : List.findSome? _ (List.range 17) = found
  cases found with
  | none => exact hexact
  | some found =>
    obtain ⟨n, -, hn⟩ := List.exists_of_findSome?_eq_some hf
    obtain ⟨digits, hgrid, rfl⟩ := Option.map_eq_some_iff.1 hn
    exact readsBack_iff.1 (readsBack_of_onGrid? hgrid)

/-- The shortest decimal has the sign of its value. -/
theorem shortest_negative (x : Binary64) : x.shortest.negative = x.negative := by
  unfold shortest
  split <;> rfl

/-- The shortest decimal of a zero is the zero. -/
theorem shortest_of_zero (hx : x.significand = 0) :
    x.shortest = ⟨x.negative, 0, 0⟩ ∧ zero x.negative = x := by
  have hz : x.isZero = true := by simpa [isZero] using hx
  refine ⟨by rw [shortest, if_pos hz], ?_⟩
  obtain ⟨negative, significand, exponent, hc⟩ := x
  obtain rfl : significand = 0 := hx
  obtain rfl : exponent = -1074 := hc.2.2.2.resolve_left (by decide)
  rfl

/-- **A value is the nearest one to its shortest decimal.** -/
theorem nearest?_shortest (x : Binary64) : x.shortest.nearest? = some x := by
  by_cases hx : x.significand = 0
  · obtain ⟨hs, hz⟩ := shortest_of_zero hx
    rw [hs, Decimal.nearest?, if_pos rfl, hz]
  · exact Decimal.nearest?_of_rounds hx x.shortest_negative (rounds_shortest hx)

/-! ## Scaling -/

variable {y t : Binary64} {num den n : ℕ} {e : ℤ}

/-- A value is the quotient of its two numbers, which are positive. -/
theorem ratio_value (y : Binary64) :
    (y.ratio.1 / y.ratio.2 : ℚ) = y.significand * 2 ^ y.exponent ∧ 0 < y.ratio.2 ∧
      (y.significand ≠ 0 → 0 < y.ratio.1) := by
  refine ⟨?_, Nat.pow_pos (by decide),
    fun hy => Nat.mul_pos (Nat.pos_of_ne_zero hy) (Nat.pow_pos (by decide))⟩
  simp only [ratio, Nat.pow_eq, Nat.cast_mul, Nat.cast_pow, Nat.cast_ofNat]
  rw [div_eq_iff (by positivity), mul_assoc, zpow_mul_toNat (by norm_num)]

/-- A quotient of two whole numbers that is in the interval of a value is rounded to the value. -/
theorem ofRatio?_of_rounds (hx : x.significand ≠ 0) (hn : 0 < num) (hd : 0 < den)
    (h : x.Rounds (num / den)) : ofRatio? x.negative num den = some x := by
  rw [ofRatio?, if_neg hn.ne']
  exact h.ratioNearest? hx hn hd

/-- A product is rounded to the value in whose interval it lies. -/
theorem times?_of_rounds (hx : x.significand ≠ 0) (hs : y.negative = x.negative)
    (hy : y.significand ≠ 0) (ht : t.significand ≠ 0)
    (h : x.Rounds (y.significand * 2 ^ y.exponent * (t.significand * 2 ^ t.exponent))) :
    y.times? t = some x := by
  obtain ⟨hyv, hy₂, hy₁⟩ := y.ratio_value
  obtain ⟨htv, ht₂, ht₁⟩ := t.ratio_value
  rw [← hyv, ← htv, div_mul_div_comm, ← Nat.cast_mul, ← Nat.cast_mul] at h
  rw [times?, hs]
  exact ofRatio?_of_rounds hx (Nat.mul_pos (hy₁ hy) (ht₁ ht)) (Nat.mul_pos hy₂ ht₂) h

/-- A quotient is rounded to the value in whose interval it lies. -/
theorem over?_of_rounds (hx : x.significand ≠ 0) (hs : y.negative = x.negative)
    (hy : y.significand ≠ 0) (ht : t.significand ≠ 0)
    (h : x.Rounds (y.significand * 2 ^ y.exponent / (t.significand * 2 ^ t.exponent))) :
    y.over? t = some x := by
  obtain ⟨hyv, hy₂, hy₁⟩ := y.ratio_value
  obtain ⟨htv, ht₂, ht₁⟩ := t.ratio_value
  rw [← hyv, ← htv, div_div_div_eq, ← Nat.cast_mul, ← Nat.cast_mul] at h
  rw [over?, hs]
  exact ofRatio?_of_rounds hx (Nat.mul_pos (hy₁ hy) ht₂) (Nat.mul_pos hy₂ (ht₁ ht)) h

/-- Some value is a number of 53 bits times a power of two. -/
theorem exists_value {m j : ℕ} (hm : m ≠ 0) (hlt : m < 2 ^ 53) (hj : j ≤ 900) (negative : Bool) :
    ∃ y : Binary64, y.negative = negative ∧ y.significand ≠ 0 ∧
      (y.significand * 2 ^ y.exponent : ℚ) = m * 2 ^ j := by
  have hlog : Nat.log2 m < 53 := (Nat.log2_lt hm).2 hlt
  obtain ⟨k, hk⟩ : ∃ k, Nat.log2 m + k = 52 := ⟨52 - Nat.log2 m, by omega⟩
  have hlow : 2 ^ 52 ≤ m * 2 ^ k := by
    rw [← hk, pow_add]
    exact Nat.mul_le_mul_right _ (Nat.log2_self_le hm)
  have hhigh : m * 2 ^ k < 2 ^ 53 := by
    have hs : 53 = Nat.log2 m + 1 + k := by omega
    rw [hs, pow_add]
    exact Nat.mul_lt_mul_of_pos_right Nat.lt_log2_self (by positivity)
  refine ⟨⟨negative, m * 2 ^ k, j - k, hhigh, by omega, by omega, .inl hlow⟩, rfl, ?_, ?_⟩
  · exact Nat.mul_ne_zero hm (by positivity)
  · rw [zpow_sub₀ (by norm_num), zpow_natCast, zpow_natCast]
    push_cast
    field_simp

/-- A number that is a value rounds to it. -/
theorem ofRatio?_one (hy : y.significand ≠ 0) (hv : (y.significand * 2 ^ y.exponent : ℚ) = n) :
    ofRatio? y.negative n 1 = some y := by
  have hself := rounds_self hy
  rw [hv] at hself
  have hn : 0 < n := by
    refine Nat.pos_of_ne_zero fun hn => ?_
    have hlow := (hself.bounds hy).1
    rw [hn, Nat.cast_zero] at hlow
    exact absurd hlow (not_lt.2 (by positivity))
  refine ofRatio?_of_rounds hy hn Nat.one_pos ?_
  rwa [Nat.cast_one, div_one]

/-- The powers of ten up to `10 ^ 22` are values. -/
theorem exists_powerOfTen {k : ℕ} (hk : k ≤ 22) :
    ∃ t, powerOfTen? k = some t ∧ t.significand ≠ 0 ∧
      (t.significand * 2 ^ t.exponent : ℚ) = 10 ^ k := by
  have hlt : 5 ^ k < 2 ^ 53 := (Nat.pow_le_pow_right (by decide) hk).trans_lt (by norm_num)
  obtain ⟨t, hs, ht, hv⟩ := exists_value (pow_ne_zero k (by decide)) hlt
    (show k ≤ 900 by omega) false
  have hten : (t.significand * 2 ^ t.exponent : ℚ) = 10 ^ k := by
    rw [hv, Nat.cast_pow, Nat.cast_ofNat, ← mul_pow]
    norm_num
  refine ⟨t, ?_, ht, hten⟩
  rw [powerOfTen?, ← hs]
  exact ofRatio?_one ht (by rw [hten, Nat.pow_eq, Nat.cast_pow, Nat.cast_ofNat])

/-- **Exact digits, scaled by an exact power of ten, are rounded once.** -/
theorem ofScaled?_of_rounds (hx : x.significand ≠ 0) (hn : n < 2 ^ 53) (hlow : -22 ≤ e)
    (hhigh : e ≤ 22) (h : x.Rounds (n * 10 ^ e)) : ofScaled? x.negative n e = some x := by
  have hn₀ : n ≠ 0 := by
    rintro rfl
    have hpos := (h.bounds hx).1
    rw [Nat.cast_zero, zero_mul] at hpos
    exact absurd hpos (not_lt.2 (by positivity))
  obtain ⟨y, hs, hy, hv⟩ := exists_value hn₀ hn (Nat.zero_le 900) x.negative
  rw [pow_zero, mul_one] at hv
  have hz : ¬y.isZero = true := by simpa [isZero] using hy
  have hy' : ofRatio? x.negative n 1 = some y := hs ▸ ofRatio?_one hy hv
  rw [ofScaled?, hy', Option.bind_eq_bind, Option.bind_some, scaleByTen?, if_neg hz,
    if_neg (by omega)]
  by_cases he : 0 ≤ e
  · obtain ⟨k, rfl⟩ := Int.eq_ofNat_of_zero_le he
    obtain ⟨t, ht, ht₀, htv⟩ := exists_powerOfTen (k := k) (by omega)
    rw [if_pos he, Int.toNat_natCast, ht, Option.bind_eq_bind, Option.bind_some]
    refine times?_of_rounds hx hs hy ht₀ ?_
    rwa [hv, htv, ← zpow_natCast]
  · obtain ⟨k, hk⟩ := Int.eq_ofNat_of_zero_le (show 0 ≤ -e by omega)
    obtain ⟨t, ht, ht₀, htv⟩ := exists_powerOfTen (k := k) (by omega)
    have hek : e = -k := by omega
    rw [if_neg he, if_pos (by omega), hk, Int.toNat_natCast, ht, Option.bind_eq_bind,
      Option.bind_some]
    refine over?_of_rounds hx hs hy ht₀ ?_
    rwa [hv, htv, div_eq_mul_inv, ← zpow_natCast, ← zpow_neg, ← hek]

end Binary64

/-! ## Texts -/

/-- A decimal with few digits: with the zeros that its text may need they are a number of 53 bits,
and the power of ten is not below `10 ^ (-22)`. -/
def Decimal.IsShort (d : Decimal) : Prop :=
  -22 ≤ d.exponent ∧ d.digits * Nat.pow 10 (d.exponent.toNat + 1) < Nat.pow 2 53

instance (d : Decimal) : Decidable d.IsShort := inferInstanceAs (Decidable (_ ∧ _))

namespace Json

variable {x : Binary64} {d : Decimal}

/-- The text of a short decimal in the interval of a value is read as the value. -/
theorem number?_of_rounds (hx : x.significand ≠ 0) (hs : d.negative = x.negative)
    (hd : d.IsShort) (hr : x.Rounds (d.digits * 10 ^ d.exponent)) :
    number? (decimalText d) = some (.float x) := by
  obtain ⟨hlow, hdigits⟩ := hd
  have hd₀ := Decimal.digits_ne_zero_of_rounds hx hr
  obtain ⟨k, hk, htext⟩ := number?_decimalText hd₀ (hdigits.trans (by decide))
  have hv : ((d.digits * Nat.pow 10 k : ℕ) : ℚ) * 10 ^ (d.exponent - k) =
      d.digits * 10 ^ d.exponent := by
    rw [Nat.pow_eq, zpow_sub₀ (by norm_num), zpow_natCast]
    push_cast
    field_simp
  have hle : Nat.pow 10 k ≤ Nat.pow 10 (d.exponent.toNat + 1) :=
    Nat.pow_le_pow_right (by decide) (by omega)
  have hword : d.digits * Nat.pow 10 k < 2 ^ 53 := (Nat.mul_le_mul_left _ hle).trans_lt hdigits
  -- a number of 53 bits has no room for more zeros
  have hzeros : d.exponent.toNat + 1 < 16 := by
    refine not_le.1 fun h => absurd hdigits (not_lt.2 ?_)
    calc Nat.pow 2 53 ≤ Nat.pow 10 16 := by decide
      _ ≤ Nat.pow 10 (d.exponent.toNat + 1) := Nat.pow_le_pow_right (by decide) h
      _ ≤ d.digits * Nat.pow 10 (d.exponent.toNat + 1) :=
        Nat.le_mul_of_pos_left _ (Nat.pos_of_ne_zero hd₀)
  rw [← hv] at hr
  rw [htext, hs, Binary64.ofScaled?_of_rounds hx hword (by omega) (by omega) hr]
  rfl

/-- A float is read back from its text. -/
def IsReadBack (x : Binary64) : Prop := number? (decimalText x.shortest) = some (.float x)

instance (x : Binary64) : Decidable (IsReadBack x) := inferInstanceAs (Decidable (_ = _))

/-- **A float with a short decimal is read back from its text.** -/
theorem number?_floatText (h : x.shortest.IsShort) : IsReadBack x := by
  by_cases hx : x.significand = 0
  · obtain ⟨hs, hz⟩ := Binary64.shortest_of_zero hx
    rw [IsReadBack, hs, number?_decimalText_zero rfl, hz]
  · exact number?_of_rounds hx x.shortest_negative h (Binary64.rounds_shortest hx)

end Json
end AgentTool
