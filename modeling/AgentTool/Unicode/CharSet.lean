/-!
# Sets of code points

A set is a list of closed ranges.  In normal form the ranges ascend and leave a
gap between neighbours, so equal sets are equal lists.  `normalize` brings any
list of ranges into this form, and the operations keep it.
-/

namespace AgentTool

/-- A set of code points as closed ranges. -/
abbrev CharSet := List (Nat × Nat)

namespace CharSet

/-- The last code point. -/
def maxCode : Nat := 0x10FFFF

/-- Joins ascending ranges that overlap or touch. -/
def joinRanges : List (Nat × Nat) → List (Nat × Nat)
  | [] => []
  | r :: rs =>
    match joinRanges rs with
    | [] => [r]
    | s :: ss => if s.1 ≤ r.2 + 1 then (r.1, max r.2 s.2) :: ss else r :: s :: ss

/-- The normal form of a list of ranges. -/
def normalize (rs : CharSet) : CharSet := joinRanges (rs.mergeSort fun a b => a.1 ≤ b.1)

/-- Membership. -/
def mem (rs : CharSet) (n : Nat) : Bool := rs.any fun r => r.1 ≤ n && n ≤ r.2

/-- Membership of a character. -/
def memChar (rs : CharSet) (c : Char) : Bool := rs.mem c.toNat

/-- The set of one code point. -/
def single (n : Nat) : CharSet := [(n, n)]

/-- The set of all code points. -/
def all : CharSet := [(0, maxCode)]

/-- The members of either set. -/
def union (a b : CharSet) : CharSet := normalize (a ++ b)

/-- The gaps of a set from `start` on. -/
def gapsFrom (start : Nat) : CharSet → CharSet
  | [] => if start ≤ maxCode then [(start, maxCode)] else []
  | r :: rs =>
    if start < r.1 then (start, r.1 - 1) :: gapsFrom (r.2 + 1) rs else gapsFrom (r.2 + 1) rs

/-- The code points outside a set. -/
def complement (a : CharSet) : CharSet := gapsFrom 0 a

/-- The common members. -/
def inter (a b : CharSet) : CharSet := complement (union (complement a) (complement b))

/-- The members of the first set only. -/
def diff (a b : CharSet) : CharSet := inter a (complement b)

/-- The members of exactly one of the sets. -/
def symmDiff (a b : CharSet) : CharSet := union (diff a b) (diff b a)

/-- A set within ASCII. -/
def isAscii (a : CharSet) : Bool := List.all a fun r => r.2 < 128

/-- The single member of a set that has just one. -/
def only? : CharSet → Option Char
  | [(a, b)] => if a = b then some (Char.ofNat a) else none
  | _ => none

end CharSet
end AgentTool
