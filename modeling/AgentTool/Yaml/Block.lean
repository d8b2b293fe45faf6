import AgentTool.Yaml.Cursor

/-!
# Text in blocks

A block of text opens with `|`, which keeps its line ends, or with `>`, which
folds them: a line end between two lines that start with a visible character
becomes a space if no empty line stands between them.  Unless the header tells
the indentation, the first line with text does.

| sign | line ends at the end of the text |
| --- | --- |
| `-` | none |
| none | one |
| `+` | all |
-/

namespace AgentTool
namespace Yaml

/-- Which line ends stay at the end of a block of text. -/
inductive Chomp where
  | strip | clip | keep
  deriving DecidableEq, Repr

namespace Block

/-- The first line of a block of text. -/
structure Header where
  chomp : Chomp := .clip
  /-- how much deeper than its surroundings the text stands, if that is told -/
  deeper : Option Nat := none

/-- The sign of a way to chomp. -/
def chomp? : Option Char → Option Chomp
  | some '-' => some .strip
  | some '+' => some .keep
  | _ => none

/-- The digit that tells the indentation. -/
def deeper? (c : Cursor) : Except Error (Option Nat) :=
  match c.head? with
  | some d =>
    if d == '0' then c.fail .zeroIndentation
    else .ok (if d.isDigit then some (d.toNat - 48) else none)
  | none => .ok none

/-- The header behind the mark, its two parts in either order, and the cursor behind its line. -/
def header (c : Cursor) : Except Error (Header × Cursor) := do
  match chomp? c.head? with
  | some chomp =>
    let c := c.next
    let deeper ← deeper? c
    let c ← (if deeper.isSome then c.next else c).skipComment
    return ({ chomp, deeper }, c)
  | none =>
    let deeper ← deeper? c
    let c := if deeper.isSome then c.next else c
    let chomp := if deeper.isSome then chomp? c.head? else none
    let c ← (if chomp.isSome then c.next else c).skipComment
    return ({ chomp := chomp.getD .clip, deeper }, c)

/-- Passes over indentation and empty lines: the line ends, the deepest column reached, and the
cursor at the next visible character or at text.  Without an indentation any will do. -/
def emptyLines (indent : Option Nat) (breaks : List Char) (deepest : Nat) (c : Cursor) :
    Except Error (List Char × Nat × Cursor) :=
  let inIndent := indent.all fun n => decide (c.column < n)
  let deepest := max deepest c.column
  match _h : c.rest with
  | [] => .ok (breaks, deepest, c)
  | x :: xs =>
    if x == ' ' && inIndent then emptyLines indent breaks deepest (c.behind x xs)
    else if x == '\t' && inIndent then c.fail .tabForIndentation
    else if isBreak x then emptyLines indent (breaks ++ [x]) deepest (c.behind x xs)
    else .ok (breaks, deepest, c)
termination_by c.rest.length
decreasing_by all_goals simp only [Cursor.rest_behind, _h, List.length_cons, Nat.lt_succ_self]

/-- The text read so far and what stands behind its last line. -/
structure Lines where
  text : List Char := []
  /-- the end of the last line -/
  lineEnd : List Char := []
  /-- the ends of the empty lines after it -/
  more : List Char := []
  /-- whether the last line starts with a blank -/
  blankStart : Bool := false

namespace Lines

/-- What joins the last line and a line that starts with a blank or not. -/
def joint (keep : Bool) (ls : Lines) (blank : Bool) : List Char :=
  if !keep && ls.lineEnd == ['\n'] && !ls.blankStart && !blank then
    if ls.more.isEmpty then [' '] else ls.more
  else ls.lineEnd ++ ls.more

/-- The text with its end chomped. -/
def chomped (ls : Lines) : Chomp → List Char
  | .strip => ls.text
  | .clip => ls.text ++ ls.lineEnd
  | .keep => ls.text ++ ls.lineEnd ++ ls.more

end Lines

/-- The lines that stand at the indentation; `fuel` bounds their number. -/
def lines (keep : Bool) (indent : Nat) : Nat → Lines → Cursor → Except Error (Lines × Cursor)
  | 0, ls, c => .ok (ls, c)
  | fuel + 1, ls, c =>
    if c.column = indent ∧ !c.rest.isEmpty then do
      let blank := c.head?.any isBlank
      let line := c.run (!isBreak ·)
      let stop := c.skip line.length
      let (more, _, next) ← emptyLines (some indent) [] 0 stop.next
      lines keep indent fuel
        { text := ls.text ++ ls.joint keep blank ++ line, lineEnd := stop.rest.take 1, more
          blankStart := blank } next
    else .ok (ls, c)

/-- The text of a block behind its mark, and the cursor behind it.  `outer` is the indentation of
the surrounding block. -/
def text (keep : Bool) (outer : Option Nat) (c : Cursor) : Except Error (String × Cursor) := do
  let (head, c) ← header c
  let told := head.deeper.map fun n => outer.getD 0 + n
  let (more, deepest, c) ← emptyLines told [] 0 c
  let indent := told.getD (max deepest (max ((outer.map (· + 1)).getD 0) 1))
  let (ls, c) ← lines keep indent (c.rest.length + 1) { more } c
  return (String.ofList (ls.chomped head.chomp), c)

end Block
end Yaml
end AgentTool
