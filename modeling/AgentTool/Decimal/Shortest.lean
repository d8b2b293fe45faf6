import AgentTool.Decimal.Binary64

/-!
# The shortest decimal of a binary64 value

Of all decimals that round to a value, `Binary64.shortest` takes one with the
fewest digits, and of those the nearest; an exact tie goes to the even digit.

The reals that round to `m · 2 ^ q` form an interval whose ends are half way to
the two neighbours and belong to it exactly when `m` is even.  Grids of one,
two, … seventeen significant digits are tried in turn; on each, only the two
points next to the value can lie in the interval.
-/

namespace AgentTool
namespace Binary64

/-- The order of `a · 10 ^ i` and `n · 2 ^ j`. -/
def compareScaled (a : Nat) (i : Int) (n : Nat) (j : Int) : Ordering :=
  compare (a * Nat.pow 10 i.toNat * Nat.pow 2 (-j).toNat)
    (n * Nat.pow 2 j.toNat * Nat.pow 10 (-i).toNat)

/-- Below a power of two the neighbour is half as far away as above. -/
def narrowBelow (x : Binary64) : Bool := x.significand == Nat.pow 2 52 && x.exponent > -1074

/-- `digits · 10 ^ exponent` lies among the reals that round to `|x|`. -/
def readsBack (x : Binary64) (digits : Nat) (exponent : Int) : Bool :=
  let low := if x.narrowBelow then 4 * x.significand - 1 else 4 * x.significand - 2
  let high := 4 * x.significand + 2
  let closed := x.significand % 2 == 0
  let atLow := compareScaled digits exponent low (x.exponent - 2)
  let atHigh := compareScaled digits exponent high (x.exponent - 2)
  (atLow == .gt || (closed && atLow == .eq)) && (atHigh == .lt || (closed && atHigh == .eq))

/-- The least `k` with `|x| < 10 ^ k`, for a value other than zero: the binary
logarithm gives an estimate that is at most two short. -/
def scale (x : Binary64) : Int :=
  let guess := ((Nat.log2 x.significand : Int) + x.exponent) * 30103 / 100000
  if compareScaled 1 guess x.significand x.exponent == .gt then guess
  else if compareScaled 1 (guess + 1) x.significand x.exponent == .gt then guess + 1
  else guess + 2

/-- The quotient of `|x|` by `10 ^ e`, rounded down. -/
def gridFloor (x : Binary64) (e : Int) : Nat :=
  (x.significand * Nat.pow 2 x.exponent.toNat * Nat.pow 10 (-e).toNat) /
    (Nat.pow 2 (-x.exponent).toNat * Nat.pow 10 e.toNat)

/-- The point of the grid `10 ^ e` that reads back to `|x|`, the nearer one if
both neighbours do. -/
def onGrid? (x : Binary64) (e : Int) : Option Nat :=
  let below := x.gridFloor e
  match x.readsBack below e, x.readsBack (below + 1) e with
  | true, false => some below
  | false, true => some (below + 1)
  | false, false => none
  | true, true =>
    match compareScaled (2 * below + 1) e (2 * x.significand) x.exponent with
    | .gt => some below
    | .lt => some (below + 1)
    | .eq => some (if below % 2 = 0 then below else below + 1)

/-- Moves trailing zeros of the digits into the exponent; `fuel` bounds their number. -/
def stripZeros : (fuel digits : Nat) → (exponent : Int) → Nat × Int
  | 0, digits, exponent => (digits, exponent)
  | fuel + 1, digits, exponent =>
    if digits ≠ 0 ∧ digits % 10 = 0 then stripZeros fuel (digits / 10) (exponent + 1)
    else (digits, exponent)

/-- `|x|` itself as a decimal. -/
def exact (x : Binary64) : Nat × Int :=
  (x.significand * Nat.pow 2 x.exponent.toNat * Nat.pow 5 (-x.exponent).toNat, min x.exponent 0)

/-- The decimal with the fewest digits that rounds to `x`. -/
def shortest (x : Binary64) : Decimal :=
  if x.isZero then ⟨x.negative, 0, 0⟩
  else
    let k := x.scale
    let found := (List.range 17).findSome? fun (n : Nat) =>
      (x.onGrid? (k - (n + 1))).map fun digits => (digits, k - (n + 1 : Int))
    let (digits, exponent) := found.getD x.exact
    let (digits, exponent) := stripZeros digits digits exponent
    ⟨x.negative, digits, exponent⟩

end Binary64
end AgentTool
