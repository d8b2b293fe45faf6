/-!
# White space and trimming

A character is blank when it has the Unicode property White_Space: 25 code
points in 10 ranges.  The zero width space `U+200B` and the byte order mark
`U+FEFF` are not among them.  Names, paths, defaults and addresses are trimmed
of blanks at both ends before they are read.
-/

namespace AgentTool
namespace Text

/-- Membership of a code point in a list of closed ranges. -/
def inRanges (ranges : List (Nat × Nat)) (n : Nat) : Bool :=
  ranges.any fun r => r.1 ≤ n && n ≤ r.2

/-- The code points with the property White_Space, ascending. -/
def blankRanges : List (Nat × Nat) :=
  [(0x09, 0x0D), (0x20, 0x20), (0x85, 0x85), (0xA0, 0xA0), (0x1680, 0x1680), (0x2000, 0x200A),
   (0x2028, 0x2029), (0x202F, 0x202F), (0x205F, 0x205F), (0x3000, 0x3000)]

/-- The Unicode property White_Space. -/
def isBlank (c : Char) : Bool := inRanges blankRanges c.toNat

/-- The text without its leading blanks. -/
def trimLeft (cs : List Char) : List Char := cs.dropWhile isBlank

/-- The text without its trailing blanks. -/
def trimRight (cs : List Char) : List Char := (cs.reverse.dropWhile isBlank).reverse

/-- The text without the blanks at either end. -/
def trim (cs : List Char) : List Char := trimRight (trimLeft cs)

/-- `trim` on strings. -/
def trimString (s : String) : String := String.ofList (trim s.toList)

/-- A string that holds nothing but blanks. -/
def isBlankString (s : String) : Bool := s.toList.all isBlank

end Text
end AgentTool
