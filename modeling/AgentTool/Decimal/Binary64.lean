/-!
# Binary64 values and their decimals

A `Decimal` is `± digits · 10 ^ exponent`, a `Binary64` is
`± significand · 2 ^ exponent` in the one canonical form of the binary64
format: a significand of 53 bits, fewer only at the least exponent `-1074`.

`Decimal.nearest?` rounds a decimal to the nearest binary64 value, ties to the
even significand, and has no answer beyond the largest finite value.
Everything is computed with natural numbers.
-/

namespace AgentTool

/-- The number `± digits · 10 ^ exponent`. -/
structure Decimal where
  negative : Bool
  digits : Nat
  exponent : Int
  deriving DecidableEq, Repr, Inhabited

/-- The canonical pairs of significand and exponent. -/
def Binary64.Canonical (significand : Nat) (exponent : Int) : Prop :=
  significand < Nat.pow 2 53 ∧ -1074 ≤ exponent ∧ exponent ≤ 971 ∧
    (Nat.pow 2 52 ≤ significand ∨ exponent = -1074)

instance (significand : Nat) (exponent : Int) :
    Decidable (Binary64.Canonical significand exponent) := by
  unfold Binary64.Canonical
  infer_instance

/-- A finite binary64 value `± significand · 2 ^ exponent`; the two zeros differ. -/
structure Binary64 where
  negative : Bool
  significand : Nat
  exponent : Int
  canonical : Binary64.Canonical significand exponent
  deriving DecidableEq, Repr

namespace Binary64

/-- The value of a sign, a significand and an exponent, if the pair is canonical. -/
def ofParts? (negative : Bool) (significand : Nat) (exponent : Int) : Option Binary64 :=
  if h : Canonical significand exponent then some ⟨negative, significand, exponent, h⟩ else none

/-- Zero with the given sign. -/
def zero (negative : Bool) : Binary64 := ⟨negative, 0, -1074, by decide⟩

instance : Inhabited Binary64 := ⟨zero false⟩

/-- Either zero. -/
def isZero (x : Binary64) : Bool := x.significand == 0

/-- Numeric equality: equal values, or two zeros of any sign. -/
def sameValue (x y : Binary64) : Bool := x.isZero && y.isZero || x == y

/-- Whether the value is a whole number. -/
def isWhole (x : Binary64) : Bool :=
  x.exponent ≥ 0 || x.significand % Nat.pow 2 (-x.exponent).toNat == 0

/-- A value below zero. -/
def isNegative (x : Binary64) : Bool := x.negative && !x.isZero

end Binary64

/-- `num / den` rounded to a natural number, ties to the even one. -/
def roundHalfEven (num den : Nat) : Nat :=
  let q := num / den
  let r := num % den
  if 2 * r < den then q
  else if 2 * r > den then q + 1
  else if q % 2 = 0 then q else q + 1

namespace Decimal

/-- The numerator and denominator of `num / den / 2 ^ q`. -/
def overPower (num den : Nat) (q : Int) : Nat × Nat :=
  (num * Nat.pow 2 (-q).toNat, den * Nat.pow 2 q.toNat)

/-- The exponent at which `num / den` has a significand of 53 bits, or the
least exponent of the format if that is larger. -/
def binaryExponent (num den : Nat) : Int :=
  let low : Int := max ((Nat.log2 num : Int) - Nat.log2 den - 53) (-1074)
  let (n, d) := overPower num den low
  if n < d * Nat.pow 2 53 then low else low + 1

/-- `num / den` as a binary64 value, `none` beyond the largest one.  A significand that rounding
has brought to 54 bits is a power of two at the next exponent. -/
def ratioNearest? (negative : Bool) (num den : Nat) : Option Binary64 :=
  let q := binaryExponent num den
  let (n, d) := overPower num den q
  let m := roundHalfEven n d
  if m = Nat.pow 2 53 then Binary64.ofParts? negative (Nat.pow 2 52) (q + 1)
  else Binary64.ofParts? negative m q

/-- The number of decimal digits of `n`, `1` for zero. -/
def digitCount (n : Nat) : Nat := (Nat.toDigits 10 n).length

/-- The nearest binary64 value, `none` beyond the largest one.  A decimal whose
leading digit stands above `10 ^ 310` or below `10 ^ (-330)` is settled by its
scale alone. -/
def nearest? (d : Decimal) : Option Binary64 :=
  if d.digits = 0 then some (Binary64.zero d.negative)
  else
    let scale := (digitCount d.digits : Int) + d.exponent
    if scale > 310 then none
    else if scale < -330 then some (Binary64.zero d.negative)
    else ratioNearest? d.negative (d.digits * Nat.pow 10 d.exponent.toNat)
      (Nat.pow 10 (-d.exponent).toNat)

end Decimal
end AgentTool
