import AgentTool.Text.Blank

/-!
# Whole numbers in settings

A number is written in decimal digits, with or without a plus sign in front and
blanks around it.  It has to fit a word of a given size.
-/

namespace AgentTool
namespace Text

/-- The digits without a plus sign in front of them. -/
def dropPlus : List Char → List Char
  | '+' :: cs => cs
  | cs => cs

/-- The number below `bound` that a text stands for. -/
def natural? (bound : Nat) (s : String) : Option Nat :=
  let digits := dropPlus (trim s.toList)
  if digits.isEmpty || !digits.all Char.isDigit then none
  else
    let n := digits.foldl (fun n c => 10 * n + (c.toNat - 48)) 0
    if n < bound then some n else none

end Text
end AgentTool
