import AgentTool.Regex.Size
import AgentTool.Regex.Parser

/-!
# Regular expressions: search

An expression is written out as a tree whose sets carry marks.  A mark on a set
says that the set has just consumed a character on some way from the start of a
match.  One pass over the tree per character moves all marks, so a search takes
time proportional to the text and the tree, whatever the pattern.
-/

namespace AgentTool
namespace Regex

/-- What stands to the left and right of a position. -/
structure Context where
  left : Option Char
  right : Option Char

/-- A character of words, in Unicode or in ASCII. -/
def isWordChar (words : CharSet) (unicode : Bool) (c : Option Char) : Bool :=
  match c with
  | none => false
  | some c => if unicode then words.memChar c else c.isAlphanum || c == '_'

/-- Whether a condition holds at a position; `words` are the characters of words. -/
def Look.holds (words : CharSet) (x : Context) : Look → Bool
  | .start => x.left.isNone
  | .finish => x.right.isNone
  | .startLine false => x.left.isNone || x.left == some '\n'
  | .endLine false => x.right.isNone || x.right == some '\n'
  | .startLine true =>
    x.left.isNone || x.left == some '\n' || (x.left == some '\r' && x.right != some '\n')
  | .endLine true =>
    x.right.isNone || x.right == some '\r' || (x.right == some '\n' && x.left != some '\r')
  | .word u negated =>
    (isWordChar words u x.left != isWordChar words u x.right) != negated
  | .wordStart u => !isWordChar words u x.left && isWordChar words u x.right
  | .wordEnd u => isWordChar words u x.left && !isWordChar words u x.right
  | .wordStartHalf u => !isWordChar words u x.left
  | .wordEndHalf u => !isWordChar words u x.right

/-- An expression written out, with marks on its sets. -/
inductive Tree where
  | empty
  | chars (s : CharSet) (marked : Bool)
  | look (l : Look)
  | seq (a b : Tree)
  | alt (a b : Tree)
  | star (a : Tree)
  deriving Inhabited

namespace Tree

/-- Whether the tree matches the empty text at a position. -/
def nullable (words : CharSet) (x : Context) : Tree → Bool
  | .empty | .star _ => true
  | .chars _ _ => false
  | .look l => l.holds words x
  | .seq a b => a.nullable words x && b.nullable words x
  | .alt a b => a.nullable words x || b.nullable words x

/-- Whether a match that is under way can end at a position. -/
def final (words : CharSet) (x : Context) : Tree → Bool
  | .empty | .look _ => false
  | .chars _ marked => marked
  | .seq a b => (a.final words x && b.nullable words x) || b.final words x
  | .alt a b => a.final words x || b.final words x
  | .star a => a.final words x

/-- Moves all marks over the character `c`; with `enter` a match may start here. -/
def shift (words : CharSet) (x : Context) (c : Char) (enter : Bool) : Tree → Tree
  | .empty => .empty
  | .look l => .look l
  | .chars s _ => .chars s (enter && s.memChar c)
  | .seq a b =>
    .seq (a.shift words x c enter)
      (b.shift words x c ((enter && a.nullable words x) || a.final words x))
  | .alt a b => .alt (a.shift words x c enter) (b.shift words x c enter)
  | .star a => .star (a.shift words x c (enter || a.final words x))

/-- A tree that matches nothing. -/
def never : Tree := .chars [] false

/-- Trees one after the other. -/
def seqs : List Tree → Tree
  | [] => .empty
  | [t] => t
  | t :: ts => .seq t (seqs ts)

/-- `n` copies of a tree one after the other, halved for a shallow tree; `fuel`
bounds the depth. -/
def copies (t : Tree) : (fuel n : Nat) → Tree
  | 0, _ => .empty
  | fuel + 1, n =>
    if n = 0 then .empty
    else if n = 1 then t
    else .seq (copies t fuel (n / 2)) (copies t fuel (n - n / 2))

/-- `t` repeated `n` times. -/
def times (t : Tree) (n : Nat) : Tree := t.copies (n.log2 + 2) n

mutual

/-- The tree of an expression without marks. -/
def ofExpr : Expr → Tree
  | .empty => .empty
  | .literal cs => seqs (cs.map fun c => .chars (CharSet.single c.toNat) false)
  | .chars s => .chars s false
  | .look l => .look l
  | .capture sub => ofExpr sub
  | .repetition least most sub =>
    let t := ofExpr sub
    match most with
    | none => .seq (t.times least) (.star t)
    | some most => .seq (t.times least) ((Tree.alt .empty t).times (most - least))
  | .concat items => ofSequence items
  | .alternation branches => ofBranches branches

/-- The tree of a sequence. -/
def ofSequence : List Expr → Tree
  | [] => .empty
  | [e] => ofExpr e
  | e :: es => .seq (ofExpr e) (ofSequence es)

/-- The tree of branches. -/
def ofBranches : List Expr → Tree
  | [] => never
  | [e] => ofExpr e
  | e :: es => .alt (ofExpr e) (ofBranches es)

end

/-- Searches a text from a position on. -/
def searchFrom (words : CharSet) (left : Option Char) (t : Tree) : List Char → Bool
  | [] =>
    let x : Context := ⟨left, none⟩
    t.nullable words x || t.final words x
  | c :: cs =>
    let x : Context := ⟨left, some c⟩
    t.nullable words x || t.final words x ||
      searchFrom words (some c) (t.shift words x c true) cs

end Tree
end Regex

/-- A regular expression that is ready to search. -/
structure Regex where
  expr : Regex.Expr
  deriving Repr, Inhabited

namespace Regex

/-- Reads a pattern under initial flags. -/
def compile (flags : Flags) (verbose : Bool) (pattern : String) : Except Error Regex := do
  let ast ← parse verbose pattern
  let (e, _) ← translate flags ast
  if e.fits then return ⟨e⟩
  throw (.tooLarge sizeLimit)

/-- Whether the expression matches somewhere in a text. -/
def isMatch (r : Regex) (text : String) : Bool :=
  Tree.searchFrom Unicode.wordChars none (Tree.ofExpr r.expr) text.toList

end Regex
end AgentTool
