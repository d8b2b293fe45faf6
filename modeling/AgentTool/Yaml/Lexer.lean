import AgentTool.Yaml.Block
import AgentTool.Yaml.Tag

/-!
# From text to tokens

A key needs no mark of its own: whatever may be one is remembered with its place
among the tokens, and the colon that follows it on the same line, within 1024
characters, puts the token `key` there.  At the indentation of a block map only
a key may stand, so there a missing colon is an error.

Blocks are opened and closed by indentation; within brackets it has no meaning.
-/

namespace AgentTool
namespace Yaml

/-- What may turn out to be a key. -/
structure PossibleKey where
  /-- whether it can be nothing else -/
  required : Bool
  /-- its place among the tokens -/
  place : Nat
  start : Cursor

/-- The state of the lexer. -/
structure Lexer where
  cursor : Cursor
  tokens : Array Token := #[]
  /-- the indentations of the open blocks, the innermost first -/
  indents : List Nat := []
  /-- what may be a key here -/
  key : Option PossibleKey := none
  /-- what may be a key around the open brackets, the innermost first -/
  outer : List (Option PossibleKey) := []
  /-- whether a key may start here -/
  keyAllowed : Bool := true

namespace Lexer

/-- Whether a bracket is open. -/
def inFlow (l : Lexer) : Bool := !l.outer.isEmpty

/-- The indentation of the innermost block; outside all blocks it is before the first column. -/
def indent (l : Lexer) : Int := (l.indents.head?.map Int.ofNat).getD (-1)

/-- The state with one more token. -/
def push (l : Lexer) (t : Token) : Lexer := { l with tokens := l.tokens.push t }

/-- The state with a token put in at a place. -/
def insert (l : Lexer) (place : Nat) (t : Token) : Lexer :=
  { l with tokens := l.tokens.insertIdxIfInBounds place t }

/-- The state with one more token and the cursor behind its character. -/
def pushNext (l : Lexer) (t : Token) : Lexer := { l.push t with cursor := l.cursor.next }

/-- The state in which a key may or may not start. -/
def allowingKey (l : Lexer) (allowed : Bool) : Lexer := { l with keyAllowed := allowed }

/-- Closes the blocks that are indented deeper than a column. -/
def closeBlocks (l : Lexer) (column : Int) : Lexer :=
  if l.inFlow then l
  else
    let deeper := l.indents.takeWhile fun (n : Nat) => decide (column < (n : Int))
    { l with
      indents := l.indents.drop deeper.length
      tokens := l.tokens ++ deeper.map fun _ => Token.closeBlock }

/-- Opens a block at a column that is deeper than the innermost block, with its token at a place
among the tokens. -/
def openBlock (l : Lexer) (column place : Nat) (t : Token) : Lexer :=
  if !l.inFlow && decide (l.indent < column) then
    { l.insert place t with indents := column :: l.indents }
  else l

/-- Gives up what might have been a key. -/
def dropKey (l : Lexer) : Except Error Lexer :=
  match l.key with
  | some k => if k.required then k.start.fail .keyWithoutColon else .ok { l with key := none }
  | none => .ok l

/-- Remembers what starts here as a possible key. -/
def markKey (l : Lexer) : Except Error Lexer :=
  if l.keyAllowed then do
    let required := !l.inFlow && l.indent == (l.cursor.column : Int)
    let l ← l.dropKey
    return { l with key := some { required, place := l.tokens.size, start := l.cursor } }
  else .ok l

/-- A possible key, if it still is one with the cursor at `c`. -/
def fresh (c : Cursor) : Option PossibleKey → Except Error (Option PossibleKey)
  | none => .ok none
  | some k =>
    if k.start.line < c.line ∨ k.start.index + 1024 < c.index then
      if k.required then k.start.fail .keyWithoutColon else .ok none
    else .ok (some k)

/-- Forgets the possible keys that are too far behind. -/
def dropStaleKeys (l : Lexer) : Except Error Lexer := do
  return { l with key := ← fresh l.cursor l.key, outer := ← l.outer.mapM (fresh l.cursor) }

/-- Passes over blanks, comments and line ends; `fuel` bounds the number of lines.  A tab does not
count as indentation where a key may start. -/
def skipGap : Nat → Lexer → Lexer
  | 0, l => l
  | fuel + 1, l =>
    let tabs := l.inFlow || !l.keyAllowed
    let c := l.cursor.skipWhile fun x => x == ' ' || tabs && x == '\t'
    let c := if c.head? == some '#' then c.skipWhile (!isBreak ·) else c
    if c.head?.any isBreak then
      skipGap fuel { l with cursor := c.next, keyAllowed := l.keyAllowed || !l.inFlow }
    else { l with cursor := c }

/-- The dash in front of an item. -/
def entry (l : Lexer) : Except Error Lexer := do
  if !l.inFlow && !l.keyAllowed then l.cursor.fail .entryNotAllowed
  let l ← (l.openBlock l.cursor.column l.tokens.size .openList).dropKey
  return (l.allowingKey true).pushNext .entry

/-- The mark of a key. -/
def keyMark (l : Lexer) : Except Error Lexer := do
  if !l.inFlow && !l.keyAllowed then l.cursor.fail .keyNotAllowed
  let l ← (l.openBlock l.cursor.column l.tokens.size .openMap).dropKey
  return (l.allowingKey !l.inFlow).pushNext .key

/-- The colon behind a key. -/
def colon (l : Lexer) : Except Error Lexer :=
  match l.key with
  | some k =>
    let l := (l.insert k.place .key).openBlock k.start.column k.place .openMap
    .ok (({ l with key := none }.allowingKey false).pushNext .value)
  | none => do
    if !l.inFlow && !l.keyAllowed then l.cursor.fail .valueNotAllowed
    let l := l.openBlock l.cursor.column l.tokens.size .openMap
    return (l.allowingKey !l.inFlow).pushNext .value

/-- An opening bracket. -/
def openFlow (l : Lexer) (t : Token) : Except Error Lexer := do
  let l ← l.markKey
  return { l.pushNext t with key := none, outer := l.key :: l.outer, keyAllowed := true }

/-- A closing bracket. -/
def closeFlow (l : Lexer) (t : Token) : Except Error Lexer := do
  let l ← l.dropKey
  return { l.pushNext t with
    key := (l.outer.head?).getD l.key, outer := l.outer.tail, keyAllowed := false }

/-- The comma between flow items. -/
def comma (l : Lexer) : Except Error Lexer := do
  return ((← l.dropKey).allowingKey true).pushNext .comma

/-- A line that belongs to no block. -/
def outside (l : Lexer) : Except Error Lexer := do
  return (← (l.closeBlocks (-1)).dropKey).allowingKey false

/-- A token that may start a key. -/
def inKey (l : Lexer) (read : Cursor → Except Error (Token × Cursor)) : Except Error Lexer := do
  let l ← l.markKey
  let (t, c) ← read l.cursor
  return { l.push t with cursor := c, keyAllowed := false }

/-- A block of text. -/
def blockText (l : Lexer) (keep : Bool) : Except Error Lexer := do
  let l ← l.dropKey
  let (text, c) ← Block.text keep l.indents.head? l.cursor.next
  return { l.push (.scalar text false) with cursor := c, keyAllowed := true }

/-- Plain text. -/
def plain (l : Lexer) : Except Error Lexer := do
  let l ← l.markKey
  let (text, broken, c) ← plainText l.inFlow (l.indent + 1) [] {} l.cursor
  return { l.push (.scalar text true) with cursor := c, keyAllowed := broken }

/-- Whether plain text may start with a character, with `gap` telling whether a gap follows it. -/
def startsPlain (inFlow gap blank : Bool) (x : Char) : Bool :=
  x == '-' && !blank || !inFlow && (x == '?' || x == ':') && !gap ||
    !(isBlank x || isBreak x || "-?:,[]\x7b\x7d#&*!|>'\"%@\x60".contains x)

/-- Reads a token that starts with a character. -/
def dispatch (l : Lexer) (x : Char) (xs : List Char) : Except Error Lexer :=
  let gap := atGap xs
  if x == '[' then l.openFlow .openFlowList
  else if x == '\x7b' then l.openFlow .openFlowMap
  else if x == ']' then l.closeFlow .closeFlowList
  else if x == '\x7d' then l.closeFlow .closeFlowMap
  else if x == ',' then l.comma
  else if x == '-' && gap then l.entry
  else if x == '?' && (l.inFlow || gap) then l.keyMark
  else if x == ':' && (l.inFlow || gap) then l.colon
  else if x == '*' then l.inKey fun c => do
    let (name, c) ← anchorName c.next
    return (.alias name, c)
  else if x == '&' then l.inKey fun c => do
    let (name, c) ← anchorName c.next
    return (.anchor name, c)
  else if x == '!' then l.inKey (tag l.inFlow)
  else if x == '|' && !l.inFlow then l.blockText true
  else if x == '>' && !l.inFlow then l.blockText false
  else if x == '\'' || x == '"' then l.inKey fun c => do
    let (text, c) ← quotedText (x == '\'') [] {} c.next
    return (.scalar text false, c)
  else if startsPlain l.inFlow gap (xs.head?.any isBlank) x then l.plain
  else l.cursor.fail .strangeCharacter

/-- Reads the next token; nothing is left at the end of the text, where all blocks are closed.
`fuel` bounds the number of lines in front of the token. -/
def step (fuel : Nat) (l : Lexer) : Except Error Lexer := do
  let l ← (skipGap fuel l).dropStaleKeys
  let l := l.closeBlocks l.cursor.column
  match l.cursor.rest with
  | [] => l.outside
  | x :: xs =>
    if l.cursor.column == 0 && x == '%' then
      let l ← l.outside
      let (t, c) ← directive l.cursor
      return { l.push t with cursor := c }
    else if l.cursor.atDocument then
      let t := if x == '-' then Token.openDocument else Token.closeDocument
      let l ← l.outside
      return { l.push t with cursor := l.cursor.skip 3 }
    else l.dispatch x xs

/-- Reads tokens until the text ends; `fuel` bounds the number of characters. -/
def run : Nat → Lexer → Except Error Lexer
  | 0, l => .ok l
  | fuel + 1, l => do
    let next ← l.step (fuel + 1)
    if next.cursor.rest.isEmpty && l.cursor.rest.isEmpty then return next else run fuel next

end Lexer

/-- The cursor at the start of a text, behind a byte order mark. -/
def Cursor.ofText (cs : List Char) : Cursor :=
  match cs with
  | '\ufeff' :: rest => { rest, column := 1, index := 1 }
  | rest => { rest }

/-- The tokens of a text. -/
def tokens (text : String) : Except Error (List Token) := do
  let cs := normalize text.toList
  if !cs.all isAllowed then .error ⟨.forbiddenCharacter, none⟩
  else return (← Lexer.run (cs.length + 2) { cursor := .ofText cs }).tokens.toList

end Yaml
end AgentTool
