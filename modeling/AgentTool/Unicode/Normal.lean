import AgentTool.Unicode.Lookup
import AgentTool.Unicode.Canonical

/-!
# Canonical normal form

Text in normal form has every character composed as far as it goes and its
marks in the order of their combining classes.  Characters are taken apart, the
marks behind each base character are sorted, and the pairs are composed again.
-/

namespace AgentTool
namespace Unicode

/-- Rows of code points with commas between them. -/
def codeRows (s : String) : List (List Nat) :=
  (words s).map fun w => (Text.fields ',' w).map hexNumber

/-- Characters with the two characters that they are composed of. -/
def composites : List (List Nat) := codeRows compositeRows

/-- Characters that are always replaced, with their replacement. -/
def replaced : List (List Nat) := codeRows replacedRows

/-- The combining classes with their characters. -/
def orders : List (Nat × CharSet) := orderRows.map fun r => (r.1, decodeRow r.2)

/-- The combining class of a code point. -/
def order (n : Nat) : Nat :=
  match orders.find? fun r => r.2.mem n with
  | some r => r.1
  | none => 0

/-- The code points of Hangul syllables: the first, and the numbers of vowels and finals. -/
def hangulBase : Nat := 0xAC00

/-- The code point before the first final consonant. -/
def hangulFinal : Nat := 0x11A7

/-- The parts of a code point; `fuel` bounds the depth of composition. -/
def parts (fuel n : Nat) : List Nat :=
  if hangulBase ≤ n ∧ n ≤ 0xD7A3 then
    let i := n - hangulBase
    [0x1100 + i / 588, 0x1161 + i % 588 / 28] ++
      (if i % 28 = 0 then [] else [hangulFinal + i % 28])
  else match replaced.find? fun r => r.head? == some n with
    | some r => r.drop 1
    | none =>
      match fuel, composites.find? fun r => r.head? == some n with
      | fuel + 1, some [_, a, b] => parts fuel a ++ [b]
      | _, _ => [n]

/-- The deepest composition of a character. -/
def compositionDepth : Nat := 4

/-- Puts a code point before others, behind the marks of lower class. -/
def placeMark (n : Nat) : List Nat → List Nat
  | [] => [n]
  | m :: ms =>
    if order m = 0 ∨ order n ≤ order m then n :: m :: ms else m :: placeMark n ms

/-- Sorts the marks behind each base character. -/
def sortMarks (ns : List Nat) : List Nat := ns.foldr placeMark []

/-- The code point that two code points compose to. -/
def composed? (a b : Nat) : Option Nat :=
  if 0x1100 ≤ a ∧ a < 0x1113 ∧ 0x1161 ≤ b ∧ b < 0x1176 then
    some (hangulBase + ((a - 0x1100) * 21 + (b - 0x1161)) * 28)
  else if hangulBase ≤ a ∧ a ≤ 0xD7A3 ∧ (a - hangulBase) % 28 = 0 ∧
      hangulFinal < b ∧ b < hangulFinal + 28 then
    some (a + (b - hangulFinal))
  else (composites.find? fun r => r.drop 1 == [a, b]).bind List.head?

/-- Composes a text behind its last base character; `marks` are the marks between
that could not be composed, in reverse. -/
def compose (base : Option Nat) (marks : List Nat) : List Nat → List Nat
  | [] => base.toList ++ marks.reverse
  | n :: ns =>
    let blocked := match marks with
      | [] => false
      | m :: _ => order n ≤ order m
    let joined := if blocked then none else base.bind (composed? · n)
    match joined with
    | some c => compose (some c) marks ns
    | none =>
      if order n = 0 then base.toList ++ marks.reverse ++ compose (some n) [] ns
      else compose base (n :: marks) ns

/-- The canonical normal form of a text. -/
def normalForm (cs : List Char) : List Char :=
  let apart := sortMarks (cs.flatMap fun c => parts compositionDepth c.toNat)
  (compose none [] apart).map Char.ofNat

end Unicode
end AgentTool
