import AgentTool.Decimal.Binary64

/-!
# Scaling by powers of ten

A quick reader of decimals does not look for the nearest value.  It takes the
digits as a value, the power of ten as another, and scales the one by the other:

| power of ten | value |
| --- | --- |
| above 308 | none |
| from 0 to 308 | the product with the power |
| from -308 to -1 | the quotient by the power |
| from -616 to -309 | the quotient by `1e308`, then by the rest |
| below | zero |

Zero stays zero.  Each step is rounded, and so is each of the two values; if more
than one of these roundings is inexact, the result may miss the nearest value.
-/

namespace AgentTool
namespace Binary64

/-- `num / den` as the nearest value, `none` beyond the largest one. -/
def ofRatio? (negative : Bool) (num den : Nat) : Option Binary64 :=
  if num = 0 then some (zero negative) else Decimal.ratioNearest? negative num den

/-- The numerator and the denominator of `|x|`. -/
def ratio (x : Binary64) : Nat × Nat :=
  (x.significand * Nat.pow 2 x.exponent.toNat, Nat.pow 2 (-x.exponent).toNat)

/-- The product of `x` with `|y|`, rounded. -/
def times? (x y : Binary64) : Option Binary64 :=
  ofRatio? x.negative (x.ratio.1 * y.ratio.1) (x.ratio.2 * y.ratio.2)

/-- The quotient of `x` by `|y|`, rounded; `y` is not zero. -/
def over? (x y : Binary64) : Option Binary64 :=
  ofRatio? x.negative (x.ratio.1 * y.ratio.2) (x.ratio.2 * y.ratio.1)

/-- A power of ten, rounded. -/
def powerOfTen? (n : Nat) : Option Binary64 := ofRatio? false (Nat.pow 10 n) 1

/-- A value scaled by a power of ten. -/
def scaleByTen? (x : Binary64) (e : Int) : Option Binary64 :=
  if x.isZero then some x
  else if 308 < e then none
  else if 0 ≤ e then do x.times? (← powerOfTen? e.toNat)
  else if -308 ≤ e then do x.over? (← powerOfTen? (-e).toNat)
  else if -616 ≤ e then do
    let least ← x.over? (← powerOfTen? 308)
    least.over? (← powerOfTen? (-e - 308).toNat)
  else some (zero x.negative)

/-- A whole number times a power of ten, rounded step by step. -/
def ofScaled? (negative : Bool) (n : Nat) (e : Int) : Option Binary64 := do
  (← ofRatio? negative n 1).scaleByTen? e

end Binary64
end AgentTool
