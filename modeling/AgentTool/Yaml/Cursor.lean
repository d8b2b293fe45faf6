import AgentTool.Text.Split

/-!
# Places in YAML text

A `Cursor` is the text that is left together with the line and the column where
it starts.  Lines end at a line feed or at one of the separators U+2028 and
U+2029; other line ends are made line feeds before the text is read
(`normalize`).

| class | characters |
| --- | --- |
| blank | space, tab |
| break | line feed, U+2028, U+2029 |
| gap | blanks, breaks, and the end of the text |
| name | ASCII letters and digits, `_`, `-` |
-/

namespace AgentTool
namespace Yaml

/-- What is wrong with a text. -/
inductive Problem where
  | forbiddenCharacter | strangeCharacter
  | keyWithoutColon | keyNotAllowed | valueNotAllowed | entryNotAllowed | colonInFlow
  | unclosedQuote | documentInQuote | unknownEscape | badCodePoint
  | tabForIndentation | zeroIndentation | textAfterHeader
  | badAnchor | badTag | badTagText | badDirective | unknownDirective
  | repeatedDirective | otherVersion | unknownTagHandle
  | noDocumentStart | noContent | noEntry | noKey | noFlowSeparator | moreDocuments
  | unknownAnchor | tooManyAliases | tooDeep | noMeaning
  deriving DecidableEq, Repr

/-- The text of a problem. -/
def Problem.text : Problem → String
  | forbiddenCharacter => "control characters are not allowed"
  | strangeCharacter => "found character that cannot start any token"
  | keyWithoutColon => "could not find expected ':'"
  | keyNotAllowed => "mapping keys are not allowed in this context"
  | valueNotAllowed => "mapping values are not allowed in this context"
  | entryNotAllowed => "block sequence entries are not allowed in this context"
  | colonInFlow => "found unexpected ':'"
  | unclosedQuote => "found unexpected end of stream"
  | documentInQuote => "found unexpected document indicator"
  | unknownEscape => "found unknown escape character"
  | badCodePoint => "found invalid Unicode character escape code"
  | tabForIndentation => "found a tab character where an indentation space is expected"
  | zeroIndentation => "found an indentation indicator equal to 0"
  | textAfterHeader => "did not find expected comment or line break"
  | badAnchor => "did not find expected alphabetic or numeric character"
  | badTag => "did not find expected whitespace or line break"
  | badTagText => "did not find expected tag URI"
  | badDirective => "found an unreadable directive"
  | unknownDirective => "found unknown directive name"
  | repeatedDirective => "found duplicate directive"
  | otherVersion => "found incompatible YAML document"
  | unknownTagHandle => "found undefined tag handle"
  | noDocumentStart => "did not find expected <document start>"
  | noContent => "did not find expected node content"
  | noEntry => "did not find expected '-' indicator"
  | noKey => "did not find expected key"
  | noFlowSeparator => "did not find expected ',' or closing bracket"
  | moreDocuments => "more than one document"
  | unknownAnchor => "unknown anchor"
  | tooManyAliases => "repetition limit exceeded"
  | tooDeep => "recursion limit exceeded"
  | noMeaning => "found a value without a meaning here"

/-- A problem and the line and column where it was seen, if it was; both count from zero. -/
structure Error where
  problem : Problem
  place : Option (Nat × Nat) := none
  deriving DecidableEq, Repr

/-- The text of an error. -/
def Error.message (e : Error) : String :=
  match e.place with
  | some (line, column) => s!"{e.problem.text} at line {line + 1} column {column + 1}"
  | none => e.problem.text

/-- A space or a tab. -/
def isBlank (c : Char) : Bool := c == ' ' || c == '\t'

/-- A character that ends a line. -/
def isBreak (c : Char) : Bool := c == '\n' || c == '\u2028' || c == '\u2029'

/-- A character of an anchor, a directive or a tag handle. -/
def isName (c : Char) : Bool := c.isAlphanum || c == '_' || c == '-'

/-- Whether the text starts with a blank or a break, or is at its end. -/
def atGap : List Char → Bool
  | [] => true
  | c :: _ => isBlank c || isBreak c

/-- A character that may stand in a text. -/
def isAllowed (c : Char) : Bool :=
  let n := c.toNat
  n == 0x09 || n == 0x0a || n == 0x0d || 0x20 ≤ n && n ≤ 0x7e || n == 0x85 ||
    0xa0 ≤ n && n ≤ 0xd7ff || 0xe000 ≤ n && n ≤ 0xfffd || 0x10000 ≤ n

/-- The text with a line feed for each carriage return, with or without one behind it, and for
each U+0085. -/
def normalize : List Char → List Char
  | [] => []
  | '\r' :: '\n' :: cs => '\n' :: normalize cs
  | c :: cs => (if c == '\r' || c == '\u0085' then '\n' else c) :: normalize cs

/-- A place in a text and what is left from there. -/
structure Cursor where
  rest : List Char
  line : Nat := 0
  column : Nat := 0
  index : Nat := 0

namespace Cursor

/-- A failure here. -/
def fail {α : Type} (c : Cursor) (p : Problem) : Except Error α := .error ⟨p, some (c.line, c.column)⟩

/-- The cursor behind the character `x`, with `xs` left. -/
def behind (c : Cursor) (x : Char) (xs : List Char) : Cursor :=
  if isBreak x then ⟨xs, c.line + 1, 0, c.index + 1⟩ else ⟨xs, c.line, c.column + 1, c.index + 1⟩

/-- Behind a character the rest of the text is left. -/
theorem rest_behind (c : Cursor) (x : Char) (xs : List Char) : (c.behind x xs).rest = xs := by
  unfold behind
  split <;> rfl

/-- The cursor behind the next character, if there is one. -/
def next (c : Cursor) : Cursor :=
  match c.rest with
  | [] => c
  | x :: xs => c.behind x xs

/-- The cursor behind `n` more characters. -/
def skip (c : Cursor) : Nat → Cursor
  | 0 => c
  | n + 1 => c.next.skip n

/-- The next character. -/
def head? (c : Cursor) : Option Char := c.rest.head?

/-- The characters from here for which `p` holds. -/
def run (c : Cursor) (p : Char → Bool) : List Char := c.rest.takeWhile p

/-- The cursor behind the characters for which `p` holds. -/
def skipWhile (c : Cursor) (p : Char → Bool) : Cursor := c.skip (c.run p).length

/-- Whether a gap is next. -/
def atGap (c : Cursor) : Bool := Yaml.atGap c.rest

/-- Whether a line starts here with the three marks and a gap. -/
def atLine (c : Cursor) (mark : Char) : Bool :=
  c.column == 0 && (match c.rest with
    | x :: y :: z :: more => x == mark && y == mark && z == mark && Yaml.atGap more
    | _ => false)

/-- Whether a line starts here that begins or ends a document. -/
def atDocument (c : Cursor) : Bool := c.atLine '-' || c.atLine '.'

/-- The cursor at the end of the line, behind blanks and a comment. -/
def skipComment (c : Cursor) : Except Error Cursor :=
  let c := c.skipWhile isBlank
  let c := if c.head? == some '#' then c.skipWhile (!isBreak ·) else c
  if c.head?.all isBreak then .ok c.next else c.fail .textAfterHeader

end Cursor
end Yaml
end AgentTool
