import AgentTool.Proofs.Attempts
import Mathlib.Tactic.Ring

/-!
# Growing delays

Without a delay that a reply asks for, the delay after an attempt is the shortest one, doubled with
each attempt before it, under the bound of the longest one:

| attempt, from zero | factor | delay |
| --- | --- | --- |
| below 32 | `2 ^ attempt` | exactly the product, or the longest delay |
| from 32 on | the largest word of 32 bits | at least as long |

The factor is computed in a word of 32 bits (`toNat_factorWord`) and the product in words of 64
bits, the seconds apart from the nanoseconds within the second (`nanos_times_in_words`); neither
loses anything, since a product that leaves its words is longer than any duration.
`delay_in_bounds` puts together what this says of the delays.
-/

namespace AgentTool

namespace Duration

/-- The shorter of two durations has the fewer nanoseconds. -/
theorem nanos_min (a b : Duration) : (min a b).nanos = min a.nanos b.nanos := by
  show (if a.nanos ≤ b.nanos then a else b).nanos = min a.nanos b.nanos
  split <;> omega

/-- The longer of two durations has the more nanoseconds. -/
theorem nanos_max (a b : Duration) : (max a b).nanos = max a.nanos b.nanos := by
  show (if a.nanos ≤ b.nanos then b else a).nanos = max a.nanos b.nanos
  split <;> omega

/-- A multiple of a duration is the product, up to the longest duration. -/
theorem nanos_times (d : Duration) (n : Nat) : (d.times n).nanos = min (d.nanos * n) limit := rfl

/-! ## The product in words -/

/-- The nanoseconds of a second, in a word. -/
def wordSecond : UInt64 := .ofNat perSecond

/-- The whole seconds of a duration, in a word. -/
def seconds (d : Duration) : UInt64 := .ofNat (d.nanos / perSecond)

/-- The nanoseconds of a duration beyond its whole seconds, in a word. -/
def within (d : Duration) : UInt64 := .ofNat (d.nanos % perSecond)

/-- Seconds and nanoseconds of a product: the nanoseconds are taken first, and what they make up in
seconds is carried over.  Nothing if the seconds leave their word. -/
def timesInWords? (d : Duration) (n : UInt32) : Option (UInt64 × UInt64) :=
  let product := d.within * n.toUInt64
  let seconds := d.seconds.toNat * n.toNat + (product / wordSecond).toNat
  if seconds < UInt64.size then some (.ofNat seconds, product % wordSecond) else none

/-- The seconds of a duration fit a word of 64 bits. -/
theorem toNat_seconds (d : Duration) : d.seconds.toNat = d.nanos / perSecond := by
  refine UInt64.toNat_ofNat_of_lt' ?_
  have hd := d.bounded
  simp only [limit, perSecond, UInt64.size] at hd ⊢
  omega

/-- The nanoseconds within the second fit a word of 64 bits. -/
theorem toNat_within (d : Duration) : d.within.toNat = d.nanos % perSecond := by
  refine UInt64.toNat_ofNat_of_lt' ?_
  simp only [perSecond, UInt64.size]
  omega

/-- The nanoseconds of a product stay in their word. -/
theorem toNat_within_mul (d : Duration) (n : UInt32) :
    (d.within * n.toUInt64).toNat = d.nanos % perSecond * n.toNat := by
  have hr : d.nanos % perSecond < perSecond := Nat.mod_lt _ (by decide)
  have hn : n.toNat < UInt32.size := n.toNat_lt
  have hp : d.nanos % perSecond * n.toNat < perSecond * UInt32.size := Nat.mul_lt_mul'' hr hn
  rw [UInt64.toNat_mul, toNat_within, UInt32.toNat_toUInt64]
  exact Nat.mod_eq_of_lt (Nat.lt_trans hp (by decide))

/-- A product by a unit's multiples and rest, the rest carried over. -/
theorem mul_eq_carried (n k unit : Nat) :
    n * k = (n / unit * k + n % unit * k / unit) * unit + n % unit * k % unit := by
  calc n * k = (unit * (n / unit) + n % unit) * k := by rw [Nat.div_add_mod]
    _ = n / unit * k * unit + n % unit * k := by ring
    _ = n / unit * k * unit + (unit * (n % unit * k / unit) + n % unit * k % unit) := by
      rw [Nat.div_add_mod]
    _ = _ := by ring

/-- **A product in words is the product,** and one that leaves its words is the longest duration. -/
theorem nanos_times_in_words (d : Duration) (n : UInt32) :
    (d.times n.toNat).nanos = match d.timesInWords? n with
      | some (seconds, nanos) => seconds.toNat * perSecond + nanos.toNat
      | none => limit := by
  have hw : wordSecond.toNat = perSecond := by decide
  have hrest : d.nanos % perSecond * n.toNat % perSecond < perSecond := Nat.mod_lt _ (by decide)
  have hproduct := mul_eq_carried d.nanos n.toNat perSecond
  rw [nanos_times, timesInWords?]
  simp only [toNat_seconds, UInt64.toNat_div, toNat_within_mul, hw]
  generalize d.nanos / perSecond * n.toNat + d.nanos % perSecond * n.toNat / perSecond = s
    at hproduct ⊢
  by_cases hs : s < UInt64.size
  · rw [if_pos hs]
    simp only [UInt64.toNat_mod, toNat_within_mul, hw, UInt64.toNat_ofNat_of_lt' hs]
    rw [← hproduct]
    refine Nat.min_eq_left ?_
    generalize d.nanos % perSecond * n.toNat % perSecond = r at hrest hproduct
    simp only [limit, perSecond, UInt64.size] at *
    omega
  · rw [if_neg hs]
    refine Nat.min_eq_right ?_
    generalize d.nanos % perSecond * n.toNat % perSecond = r at hrest hproduct
    simp only [limit, perSecond, UInt64.size] at *
    omega

end Duration

namespace RetryPolicy

/-! ## The factor -/

/-- The factor in a word: one bit, shifted within the word, or the largest word. -/
def factorWord (attempt : UInt32) : UInt32 := if attempt < 32 then 1 <<< attempt else 0xFFFFFFFF

/-- **The factor in a word is the factor.** -/
theorem toNat_factorWord (attempt : UInt32) :
    (factorWord attempt).toNat = factor attempt.toNat := by
  unfold factorWord factor
  by_cases h : attempt < 32
  · have hn : attempt.toNat < 32 := UInt32.lt_iff_toNat_lt.1 h
    have hp : 2 ^ attempt.toNat < 2 ^ 32 := Nat.pow_lt_pow_right (by decide) hn
    rw [if_pos h, if_pos hn, UInt32.toNat_shiftLeft, Nat.mod_eq_of_lt hn, UInt32.toNat_one,
      Nat.one_shiftLeft]
    exact Nat.mod_eq_of_lt hp
  · have hn : ¬attempt.toNat < 32 := fun hn => h (UInt32.lt_iff_toNat_lt.2 hn)
    rw [if_neg h, if_neg hn]
    rfl

/-- The factor of one of the first 32 attempts is a power of two. -/
theorem factor_of_lt {n : Nat} (h : n < 32) : factor n = 2 ^ n := if_pos h

/-- A factor is positive. -/
theorem factor_pos (n : Nat) : 0 < factor n := by
  unfold factor
  split
  · exact Nat.two_pow_pos n
  · decide

/-- The factor does not fall, also where it stops doubling. -/
theorem factor_mono {n m : Nat} (h : n ≤ m) : factor n ≤ factor m := by
  by_cases hm : m < 32
  · rw [factor_of_lt hm, factor_of_lt (by omega)]
    exact Nat.pow_le_pow_right (by decide) h
  · have hlast : factor m = UInt32.size - 1 := if_neg hm
    rw [hlast]
    by_cases hn : n < 32
    · rw [factor_of_lt hn]
      exact (Nat.pow_le_pow_right (by decide) (Nat.le_of_lt_succ hn)).trans (by decide)
    · exact (if_neg hn : factor n = UInt32.size - 1).le

/-! ## The delay -/

variable (p : RetryPolicy)

/-- A delay that is asked for is kept, up to the longest one. -/
theorem nanos_delay_some (n : Nat) (asked : Duration) :
    (p.delay n (some asked)).nanos = min asked.nanos p.longest.nanos :=
  Duration.nanos_min _ _

/-- **The delay is exact:** a product that is longer than any duration is longer than the longest
delay, too. -/
theorem nanos_delay_none (n : Nat) :
    (p.delay n none).nanos = min (p.shortest.nanos * factor n) p.longest.nanos := by
  have hl := p.longest.bounded
  rw [delay, Option.getD_none, Duration.nanos_min, Duration.nanos_times]
  omega

/-- Delays that are not asked for do not shrink. -/
theorem delay_mono {n m : Nat} (h : n ≤ m) : p.delay n none ≤ p.delay m none := by
  show (p.delay n none).nanos ≤ (p.delay m none).nanos
  have hp := Nat.mul_le_mul_left p.shortest.nanos (factor_mono h)
  rw [nanos_delay_none, nanos_delay_none]
  omega

/-- Settings give a policy with its bounds in order. -/
theorem ofConfig_ordered (c : Config) : (ofConfig c).shortest ≤ (ofConfig c).longest := by
  show c.shortestDelay.nanos ≤ (max c.longestDelay c.shortestDelay).nanos
  rw [Duration.nanos_max]
  exact Nat.le_max_right _ _

/-- No delay of a policy in order is shorter than its shortest one. -/
theorem shortest_le_delay (h : p.shortest ≤ p.longest) (n : Nat) :
    p.shortest ≤ p.delay n none := by
  show p.shortest.nanos ≤ (p.delay n none).nanos
  rw [nanos_delay_none]
  exact Nat.le_min.2 ⟨Nat.le_mul_of_pos_right _ (factor_pos n), h⟩

/-- **Delays are exact, they grow, and they keep within their bounds.**  Factor and product come out
of their words as they are, or as the longest duration.  No delay is longer than the longest one.  A
delay that is asked for is kept up to this bound.  Otherwise the delay never falls from one attempt
to a later one; before the attempt 32 it is the shortest delay doubled with each attempt, up to the
bound; and with a policy that settings give, it is never shorter than the shortest delay, and there
are three retries at most. -/
theorem delay_exact (attempt : UInt32) :
    (factorWord attempt).toNat = factor attempt.toNat ∧
    (p.shortest.times (factor attempt.toNat)).nanos =
      (match p.shortest.timesInWords? (factorWord attempt) with
        | some (seconds, nanos) => seconds.toNat * Duration.perSecond + nanos.toNat
        | none => Duration.limit) ∧
    (∀ asked, p.delay attempt.toNat asked ≤ p.longest) ∧
    (∀ asked, (p.delay attempt.toNat (some asked)).nanos = min asked.nanos p.longest.nanos) ∧
    (∀ later : UInt32, attempt ≤ later → p.delay attempt.toNat none ≤ p.delay later.toNat none) ∧
    (attempt.toNat < 32 → (p.delay attempt.toNat none).nanos =
      min (p.shortest.nanos * 2 ^ attempt.toNat) p.longest.nanos) ∧
    ∀ c : Config, (ofConfig c).shortest ≤ (ofConfig c).longest ∧ (ofConfig c).retries ≤ 3 ∧
      (ofConfig c).shortest ≤ (ofConfig c).delay attempt.toNat none := by
  refine ⟨toNat_factorWord attempt, ?product, fun asked => p.delay_le_longest _ asked,
    fun asked => p.nanos_delay_some _ asked, ?grows, ?doubles, ?settings⟩
  case product =>
    rw [← toNat_factorWord]
    exact Duration.nanos_times_in_words p.shortest (factorWord attempt)
  case grows =>
    intro later h
    exact p.delay_mono (UInt32.le_iff_toNat_le.1 h)
  case doubles =>
    intro h
    rw [nanos_delay_none, factor_of_lt h]
  case settings =>
    intro c
    have hd := ofConfig_ordered c
    exact ⟨hd, ofConfig_retries_le c, shortest_le_delay _ hd _⟩

/-- The last attempt at which the delay doubles, of a policy that never reaches its longest delay,
and the next one. -/
theorem delay_at_last_doubling :
    let p : RetryPolicy := ⟨3, .ofSeconds 1, .ofNanos Duration.limit, []⟩
    (31 : UInt32) ≤ 32 ∧ (31 : UInt32).toNat < 32 ∧
      (p.delay 31 none).nanos = 2147483648 * Duration.perSecond ∧
      (p.delay 31 none) ≤ (p.delay 32 none) ∧
      (p.delay 32 none).nanos = 4294967295 * Duration.perSecond := by
  intro p
  obtain ⟨-, -, -, -, hmono, hexact, -⟩ := p.delay_exact 31
  exact ⟨by decide, by decide, (hexact (by decide)).trans (by decide +kernel), hmono 32 (by decide),
    by decide +kernel⟩

end RetryPolicy
end AgentTool
