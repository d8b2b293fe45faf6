/-!
# Punycode

Text of any characters in letters, digits and hyphens.  The ASCII characters
come first, before a last hyphen.  The others follow in ascending order, each as
the distance from the one before, counted over all places where a character can
stand.  A distance is written in digits of base 36, least first; a digit below
its threshold ends the number.  The thresholds follow a bias that adapts to the
distances seen so far.

| constant | value |
| --- | --- |
| base | 36 |
| least and greatest threshold | 1, 26 |
| skew, damping | 38, 700 |
| first bias, first code point | 72, 128 |
-/

namespace AgentTool
namespace Punycode

/-- The letter or digit of a number below 36. -/
def digitChar (d : Nat) : Char := if d < 26 then Char.ofNat (97 + d) else Char.ofNat (22 + d)

/-- The number of a letter or digit. -/
def digitValue? (c : Char) : Option Nat :=
  if c.isLower then some (c.toNat - 97)
  else if c.isUpper then some (c.toNat - 65)
  else if c.isDigit then some (c.toNat - 22)
  else none

/-- The threshold of the digit at weight position `k`. -/
def threshold (bias k : Nat) : Nat :=
  if k ≤ bias + 1 then 1 else if bias + 26 ≤ k then 26 else k - bias

/-- A threshold is at least one. -/
theorem one_le_threshold (bias k : Nat) : 1 ≤ threshold bias k := by
  unfold threshold
  split
  · omega
  · split <;> omega

/-- A threshold is at most 26. -/
theorem threshold_le (bias k : Nat) : threshold bias k ≤ 26 := by
  unfold threshold
  split
  · omega
  · split <;> omega

/-- Divides until the number is small, and counts by the base. -/
def reduceDelta (delta k : Nat) : Nat × Nat :=
  if 455 < delta then reduceDelta (delta / 35) (k + 36) else (delta, k)
termination_by delta
decreasing_by exact Nat.div_lt_self (by omega) (by omega)

/-- The bias after a distance, at which the text has `count` characters. -/
def adapt (delta count : Nat) (first : Bool) : Nat :=
  let delta := if first then delta / 700 else delta / 2
  let (delta, k) := reduceDelta (delta + delta / count) 0
  k + 36 * delta / (delta + 38)

/-- The digits of a number. -/
def encodeNumber (bias k n : Nat) : List Char :=
  let t := threshold bias k
  if n < t then [digitChar n]
  else digitChar (t + (n - t) % (36 - t)) :: encodeNumber bias (k + 36) ((n - t) / (36 - t))
termination_by n
decreasing_by
  have h₁ := one_le_threshold bias k
  have h₂ := threshold_le bias k
  have h₃ : (n - threshold bias k) / (36 - threshold bias k) ≤ n - threshold bias k :=
    Nat.div_le_self _ _
  omega

/-- The state of writing. -/
structure Writer where
  out : List Char := []
  delta : Nat := 0
  bias : Nat := 72
  /-- the number of characters written -/
  count : Nat

/-- Passes one character of the text, while the code point `m` is written. -/
def Writer.pass (ascii m : Nat) (w : Writer) (c : Char) : Writer :=
  if c.toNat < m then { w with delta := w.delta + 1 }
  else if c.toNat = m then
    { out := w.out ++ encodeNumber w.bias 36 w.delta
      delta := 0
      bias := adapt w.delta (w.count + 1) (w.count == ascii)
      count := w.count + 1 }
  else w

/-- Writes the given code points, in ascending order, from the code point `n` on. -/
def Writer.run (cs : List Char) (ascii : Nat) : (n : Nat) → List Nat → Writer → Writer
  | _, [], w => w
  | n, m :: ms, w =>
    let w := { w with delta := w.delta + (m - n) * (w.count + 1) }
    let w := cs.foldl (Writer.pass ascii m) w
    Writer.run cs ascii (m + 1) ms { w with delta := w.delta + 1 }

/-- A character of ASCII. -/
def isAscii (c : Char) : Bool := c.toNat < 128

/-- The text in ASCII. -/
def encode (cs : List Char) : List Char :=
  let ascii := cs.filter isAscii
  let codes := ((cs.filter fun c => !isAscii c).map Char.toNat).mergeSort.eraseDups
  let w := Writer.run cs ascii.length 128 codes { count := ascii.length }
  (if ascii.isEmpty then [] else ascii ++ ['-']) ++ w.out

/-- The number that digits open with, added to `n`, and the rest. -/
def decodeNumber? (bias : Nat) : (k weight n : Nat) → List Char → Option (Nat × List Char)
  | _, _, _, [] => none
  | k, weight, n, c :: cs =>
    match digitValue? c with
    | none => none
    | some d =>
      let t := threshold bias k
      if d < t then some (n + d * weight, cs)
      else decodeNumber? bias (k + 36) (weight * (36 - t)) (n + d * weight) cs

/-- Reading a distance takes a digit at least. -/
theorem length_lt_of_decodeNumber? {bias k weight n : Nat} {cs : List Char} {r : Nat × List Char}
    (h : decodeNumber? bias k weight n cs = some r) : r.2.length < cs.length := by
  induction cs generalizing k weight n with
  | nil => simp [decodeNumber?] at h
  | cons c cs ih =>
    unfold decodeNumber? at h
    split at h
    · simp at h
    · simp only at h
      split at h
      · simp only [Option.some.injEq] at h
        subst h
        simp
      · have := ih h
        simp only [List.length_cons]
        omega

/-- Inserts the characters that digits stand for, from the code point `n` and the place `i` on. -/
def decodeFrom? (n i bias : Nat) (out : List Char) (digits : List Char) : Option (List Char) :=
  match digits with
  | [] => some out
  | d :: ds =>
    match _hr : decodeNumber? bias 36 1 i (d :: ds) with
    | none => none
    | some (j, rest) =>
      let count := out.length + 1
      let code := n + j / count
      if code.isValidChar then
        decodeFrom? code (j % count + 1) (adapt (j - i) count (i == 0))
          (out.insertIdx (j % count) (Char.ofNat code)) rest
      else none
termination_by digits.length
decreasing_by
  have := length_lt_of_decodeNumber? _hr
  simpa using this

/-- The ASCII characters before the last hyphen, and the digits behind it. -/
def splitLast (cs : List Char) : List Char × List Char :=
  let tail := cs.reverse.takeWhile (· != '-')
  if tail.length = cs.length then ([], cs)
  else (cs.take (cs.length - tail.length - 1), tail.reverse)

/-- The text that ASCII stands for. -/
def decode? (cs : List Char) : Option (List Char) :=
  let (ascii, digits) := splitLast cs
  if ascii.all isAscii then decodeFrom? 128 0 72 ascii digits else none

end Punycode
end AgentTool
