import AgentTool.Regex.Syntax
import AgentTool.Unicode.Lookup
import AgentTool.Text.Percent

/-!
# Regular expressions: meaning

`translate` settles what every class and assertion means under the flags in
force and gives an `Expr`.  Flags set inside a group hold to its end, also in
later branches.  The functions `Expr.concat`, `Expr.alternation` and so on
build expressions in a reduced form: neighbouring literals are one literal,
branches of single characters are one set, and common parts in front of all
branches stand before them.
-/

namespace AgentTool
namespace Regex

/-- Zero-width conditions on the characters to the left and right. -/
inductive Look where
  | start | finish
  | startLine (crlf : Bool)
  | endLine (crlf : Bool)
  | word (unicode negated : Bool)
  | wordStart (unicode : Bool)
  | wordEnd (unicode : Bool)
  | wordStartHalf (unicode : Bool)
  | wordEndHalf (unicode : Bool)
  deriving DecidableEq, Repr

/-- A regular expression over sets of characters. -/
inductive Expr where
  | empty
  | literal (cs : List Char)
  | chars (s : CharSet)
  | look (l : Look)
  | repetition (least : Nat) (most : Option Nat) (sub : Expr)
  | capture (sub : Expr)
  | concat (items : List Expr)
  | alternation (branches : List Expr)
  deriving BEq, Repr, Inhabited

namespace Expr

mutual

/-- Matches nothing but the empty text. -/
def isZeroWidth : Expr → Bool
  | .empty | .look _ => true
  | .literal _ | .chars _ => false
  | .repetition _ most sub => sub.isZeroWidth && most.isSome
  | .capture sub => sub.isZeroWidth
  | .concat items => allZeroWidth items
  | .alternation branches => allZeroWidth branches

/-- All of the expressions match nothing but the empty text. -/
def allZeroWidth : List Expr → Bool
  | [] => true
  | e :: es => e.isZeroWidth && allZeroWidth es

end

mutual

/-- The least number of UTF-8 bytes of a match; nothing if there is none. -/
def leastBytes : Expr → Option Nat
  | .empty | .look _ => some 0
  | .literal cs => some (Text.utf8Size cs)
  | .chars [] => none
  | .chars ((a, _) :: _) => some (Char.ofNat a).utf8Size
  | .repetition least _ sub => sub.leastBytes.map (least * ·)
  | .capture sub => sub.leastBytes
  | .concat items => sumLeast items
  | .alternation branches => minLeast branches

/-- The sum over a sequence. -/
def sumLeast : List Expr → Option Nat
  | [] => some 0
  | e :: es =>
    match e.leastBytes, sumLeast es with
    | some a, some b => some (a + b)
    | _, _ => none

/-- The minimum over branches. -/
def minLeast : List Expr → Option Nat
  | [] => none
  | [e] => e.leastBytes
  | e :: es =>
    match e.leastBytes, minLeast es with
    | some a, some b => some (min a b)
    | _, _ => none

end

/-- A set of characters; a set of one is a literal. -/
def ofSet (s : CharSet) : Expr :=
  match s.only? with
  | some c => .literal [c]
  | none => .chars s

/-- A repetition in reduced form. -/
def repeated (least : Nat) (most : Option Nat) (sub : Expr) : Expr :=
  let (least, most) :=
    if sub.isZeroWidth then (min least 1, some (match most with
      | some m => min m 1
      | none => 1))
    else (least, most)
  if least = 0 ∧ most = some 0 then .empty
  else if least = 1 ∧ most = some 1 then sub
  else .repetition least most sub

/-- The parts of a sequence: nothing for the empty expression. -/
def parts : Expr → List Expr
  | .empty => []
  | .concat items => items
  | e => [e]

/-- One literal for neighbouring literals. -/
def joinLiterals : List Expr → List Expr
  | [] => []
  | e :: es =>
    match e, joinLiterals es with
    | .literal a, .literal b :: rest => .literal (a ++ b) :: rest
    | e, rest => e :: rest

/-- A sequence in reduced form. -/
def sequence (items : List Expr) : Expr :=
  match joinLiterals (items.flatMap parts) with
  | [] => .empty
  | [e] => e
  | es => .concat es

/-- The branches of an expression. -/
def branchesOf : Expr → List Expr
  | .alternation branches => branches
  | e => [e]

/-- A single character as a set, or a set. -/
def set? : Expr → Option CharSet
  | .literal [c] => some (CharSet.single c.toNat)
  | .chars s => some s
  | _ => none

/-- The items of a sequence that is not reduced further. -/
def items? : Expr → Option (List Expr)
  | .concat es => some es
  | _ => none

/-- The common start of two lists. -/
def commonStart (a b : List Expr) : List Expr :=
  ((a.zip b).takeWhile fun p => p.1 == p.2).map (·.1)

/-- What all branches have in front, if all are sequences. -/
def commonPrefix : List (List Expr) → List Expr
  | [] => []
  | [a] => a
  | a :: as => commonStart a (commonPrefix as)

/-- Branches without further reduction than one set for sets. -/
def plainBranches (es : List Expr) : Expr :=
  match es with
  | [] => .chars []
  | [e] => e
  | es =>
    match es.mapM set? with
    | some sets => ofSet (CharSet.normalize sets.flatten)
    | none => .alternation es

/-- Branches in reduced form.  `depth` bounds how often a common start is taken out. -/
def alternatives (depth : Nat) (es : List Expr) : Expr :=
  let es := es.flatMap branchesOf
  match plainBranches es with
  | .alternation es =>
    match depth, es.mapM items? with
    | depth + 1, some lists =>
      let start := commonPrefix lists
      if start.isEmpty then .alternation es
      else
        let ends := lists.map fun l => sequence (l.drop start.length)
        sequence (start ++ [alternatives depth ends])
    | _, _ => .alternation es
  | e => e

end Expr

/-! ## Flags -/

/-- The flags in force. -/
structure Flags where
  caseInsensitive : Bool := false
  multiLine : Bool := false
  dotAll : Bool := false
  unicode : Bool := true
  crlf : Bool := false
  deriving DecidableEq, Repr, Inhabited

/-- The flags after a change. -/
def Flags.apply (f : Flags) (change : FlagChange) : Flags :=
  change.foldl (fun f c =>
    match c.1 with
    | .caseInsensitive => { f with caseInsensitive := c.2 }
    | .multiLine => { f with multiLine := c.2 }
    | .dotAll => { f with dotAll := c.2 }
    | .unicode => { f with unicode := c.2 }
    | .crlf => { f with crlf := c.2 }
    | .swapGreed | .verbose => f) f

/-- The ASCII letters of a set in both cases. -/
def foldAscii (s : CharSet) : CharSet :=
  CharSet.normalize (s ++
    (CharSet.inter s [(97, 122)]).map (fun r => (r.1 - 32, r.2 - 32)) ++
    (CharSet.inter s [(65, 90)]).map (fun r => (r.1 + 32, r.2 + 32)))

/-- The set closed under case if the flags ask for it. -/
def foldSet (f : Flags) (s : CharSet) : CharSet :=
  if !f.caseInsensitive then s
  else if f.unicode then Unicode.foldClosure s
  else foldAscii s

/-- The set or its complement. -/
def negateIf (negated : Bool) (s : CharSet) : CharSet := if negated then s.complement else s

/-- Without the Unicode flag a class must stay within ASCII, or it could match part of a character.
-/
def demandAscii (f : Flags) (s : CharSet) : Except Error CharSet :=
  if f.unicode || s.isAscii then .ok s
  else .error (.malformed "pattern can match invalid UTF-8")

/-- The set of a class by letter. -/
def perlSet (f : Flags) (kind : PerlClass) (negated : Bool) : Except Error CharSet :=
  let s := match kind, f.unicode with
    | .digit, true => Unicode.digits
    | .space, true => Unicode.blanks
    | .word, true => Unicode.wordChars
    | .digit, false => [(48, 57)]
    | .space, false => [(9, 13), (32, 32)]
    | .word, false => [(48, 57), (65, 90), (95, 95), (97, 122)]
  demandAscii f (negateIf negated s)

/-- The set of a class by name. -/
def unicodeSet (f : Flags) (q : Query) (negated : Bool) : Except Error CharSet :=
  if !f.unicode then .error (.malformed "Unicode not allowed here")
  else
    let found := match q with
      | .name s => Unicode.named? s
      | .value p v => Unicode.valued? p v
    match found with
    | some s => .ok (negateIf negated (foldSet f s))
    | none => .error (.malformed "Unicode property not found")

/-- The code point of a literal within a class. -/
def classChar (f : Flags) (c : Literal) : Except Error Nat :=
  if f.unicode || c.char.toNat < 128 then .ok c.char.toNat
  else .error (.malformed "Unicode not allowed here")

/-- The set of an operation. -/
def SetOp.apply : SetOp → CharSet → CharSet → CharSet
  | .intersection => CharSet.inter
  | .difference => CharSet.diff
  | .symmetricDifference => CharSet.symmDiff

mutual

/-- The set of the contents of a bracketed class. -/
def classSet (f : Flags) : ClassSet → Except Error CharSet
  | .literal c => return CharSet.single (← classChar f c)
  | .range a b => return CharSet.normalize [(← classChar f a, ← classChar f b)]
  | .ascii ranges negated =>
    let s := negateIf negated ranges
    return if negated && !f.unicode then CharSet.inter s [(0, 255)] else s
  | .perl kind negated => perlSet f kind negated
  | .unicode q negated => unicodeSet f q negated
  | .bracketed negated set => do
    let s ← classSet f set
    demandAscii f (negateIf negated (foldSet f s))
  | .union items => return CharSet.normalize (← classSets f items).flatten
  | .op kind left right => do
    let l ← classSet f left
    let r ← classSet f right
    return kind.apply (foldSet f l) (foldSet f r)

/-- The sets of the items of a class. -/
def classSets (f : Flags) : List ClassSet → Except Error (List CharSet)
  | [] => return []
  | s :: ss => return (← classSet f s) :: (← classSets f ss)

end

/-- A literal; with the case flag a character that has other forms is a set. -/
def literalExpr (f : Flags) (c : Literal) : Except Error Expr :=
  if !f.unicode && c.isByte && c.char.toNat ≥ 128 then
    .error (.malformed "pattern can match invalid UTF-8")
  else
    let s := foldSet f (CharSet.single c.char.toNat)
    .ok (Expr.ofSet s)

/-- Any character, but for line ends unless the flags include them. -/
def dotExpr (f : Flags) : Except Error Expr :=
  if !f.unicode then .error (.malformed "pattern can match invalid UTF-8")
  else if f.dotAll then .ok (.chars CharSet.all)
  else if f.crlf then .ok (.chars (CharSet.complement [(10, 10), (13, 13)]))
  else .ok (.chars (CharSet.complement [(10, 10)]))

/-- The condition of an assertion. -/
def lookOf (f : Flags) : Assertion → Look
  | .startLine => if f.multiLine then .startLine f.crlf else .start
  | .endLine => if f.multiLine then .endLine f.crlf else .finish
  | .startText => .start
  | .endText => .finish
  | .wordBoundary => .word f.unicode false
  | .notWordBoundary => .word f.unicode true
  | .wordStart => .wordStart f.unicode
  | .wordEnd => .wordEnd f.unicode
  | .wordStartHalf => .wordStartHalf f.unicode
  | .wordEndHalf => .wordEndHalf f.unicode

mutual

/-- The expression of a pattern, and the flags in force behind it. -/
def translate (f : Flags) : Ast → Except Error (Expr × Flags)
  | .empty => return (.empty, f)
  | .flags change => return (.empty, f.apply change)
  | .literal c => return (← literalExpr f c, f)
  | .dot => return (← dotExpr f, f)
  | .assertion kind => return (.look (lookOf f kind), f)
  | .perl kind negated => return (Expr.ofSet (← perlSet f kind negated), f)
  | .unicode q negated => return (Expr.ofSet (← unicodeSet f q negated), f)
  | .bracketed negated set => do
    let s ← classSet f set
    return (Expr.ofSet (← demandAscii f (negateIf negated (foldSet f s))), f)
  | .repetition least most sub => do
    let (e, f) ← translate f sub
    return (Expr.repeated least most e, f)
  | .capture sub => do
    let (e, _) ← translate f sub
    return (.capture e, f)
  | .group change sub => do
    let (e, _) ← translate (f.apply change) sub
    return (e, f)
  | .concat items => do
    let (es, f) ← translateAll f items
    return (Expr.sequence es, f)
  | .alternation branches => do
    let (es, f) ← translateAll f branches
    return (Expr.alternatives (branches.length + 1) es, f)

/-- The expressions of patterns from left to right. -/
def translateAll (f : Flags) : List Ast → Except Error (List Expr × Flags)
  | [] => return ([], f)
  | a :: as => do
    let (e, f) ← translate f a
    let (es, f) ← translateAll f as
    return (e :: es, f)

end

end Regex
end AgentTool
