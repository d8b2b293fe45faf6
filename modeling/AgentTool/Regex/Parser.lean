import AgentTool.Text.Blank
import AgentTool.Regex.Syntax
import AgentTool.Unicode.Lookup

/-!
# Regular expressions: reading a pattern

| written | meaning |
| --- | --- |
| `.` `^` `$` `\A` `\z` `\b` `\B` `\<` `\>` `\b{start}` … | any character, assertions |
| `\d \s \w \p{…}` and their negations | character classes |
| `[…]` with ranges, nesting, `[:alpha:]`, `&&`, `--`, `~~` | bracketed classes |
| `* + ? {n} {n,} {n,m}`, each with an optional `?` | repetitions |
| `(…)` `(?:…)` `(?P<name>…)` `(?<name>…)` `(?flags)` `(?flags:…)` | groups and flags |
| `\x41 \x{41} \u0041 \U00000041` | characters by number |

There is no look-around and no back-reference.  With the flag `x`, blanks and
comments between the parts do not count.
-/

namespace AgentTool
namespace Regex

/-- What is left to read, whether blanks count, and the group names so far. -/
structure Reader where
  rest : List Char
  verbose : Bool
  names : List String

/-- A step of reading. -/
abbrev Read := StateT Reader (Except Error)

/-- Refuses the pattern. -/
def refuse {α : Type} (reason : String) : Read α := throw (.malformed reason)

/-- The text behind blanks and comments. -/
def skipBlanks (inComment : Bool) : List Char → List Char
  | [] => []
  | c :: cs =>
    if inComment then skipBlanks (c != '\n') cs
    else if Text.isBlank c then skipBlanks false cs
    else if c = '#' then skipBlanks true cs
    else c :: cs

/-- The next character. -/
def peek : Read (Option Char) := do return (← get).rest.head?

/-- Passes `n` characters. -/
def advance (n : Nat := 1) : Read Unit := modify fun s => { s with rest := s.rest.drop n }

/-- Passes blanks and comments if they do not count. -/
def skip : Read Unit :=
  modify fun s => if s.verbose then { s with rest := skipBlanks false s.rest } else s

/-- Passes a character and the blanks behind it. -/
def advanceSkip : Read Unit := do
  advance
  skip

/-- Passes `lead` if the text goes on with it. -/
def accept (lead : String) : Read Bool := do
  let s ← get
  if lead.toList.isPrefixOf s.rest then
    set { s with rest := s.rest.drop lead.length }
    return true
  return false

/-- The next character, which must be there. -/
def demand (reason : String) : Read Char := do
  match ← peek with
  | some c => return c
  | none => refuse reason

/-- The characters up to `close`, blanks left out if they do not count; `close`
stays.  The number bounds the characters looked at. -/
def collect (close : Char) : Nat → Read (List Char)
  | 0 => refuse "unexpected end of pattern"
  | n + 1 => do
    advanceSkip
    let c ← demand "unexpected end of pattern"
    if c = close then return []
    return c :: (← collect close n)

/-- The characters up to `close`, which stays. -/
def collectTo (close : Char) : Read (List Char) := do
  collect close ((← get).rest.length + 1)

/-- The value of a hexadecimal digit. -/
def hexDigit? (c : Char) : Option Nat :=
  if c.isDigit then some (c.toNat - 48)
  else if 'a' ≤ c ∧ c ≤ 'f' then some (c.toNat - 87)
  else if 'A' ≤ c ∧ c ≤ 'F' then some (c.toNat - 55)
  else none

/-- The character whose number is written in hexadecimal digits. -/
def hexChar (cs : List Char) : Read Char := do
  if cs.isEmpty then refuse "hexadecimal literal empty"
  match cs.mapM hexDigit? with
  | none => refuse "invalid hexadecimal digit"
  | some ds =>
    let n := ds.foldl (fun n d => 16 * n + d) 0
    if n.isValidChar then return Char.ofNat n
    refuse "hexadecimal literal is not a Unicode scalar value"

/-- `n` digits, the first of which is the next character. -/
def fixedDigits : Nat → Read (List Char)
  | 0 => return []
  | n + 1 => do
    let c ← demand "incomplete escape sequence"
    advanceSkip
    return c :: (← fixedDigits n)

/-- A character by number; the next character is `x`, `u` or `U`. -/
def readHex : Read Literal := do
  let kind ← demand "incomplete escape sequence"
  advanceSkip
  let c ← demand "incomplete escape sequence"
  if c = '{' then
    let ds ← collectTo '}'
    advanceSkip
    return ⟨← hexChar ds, false⟩
  let ds ← fixedDigits (if kind = 'x' then 2 else if kind = 'u' then 4 else 8)
  return ⟨← hexChar ds, kind = 'x'⟩

/-- The query of a class by name. -/
def query (name : List Char) : Query :=
  let make (p : List Char × List Char) : Query := .value (String.ofList p.1) (String.ofList p.2)
  match Text.breakOn? ['!', '='] name, Text.breakOn? [':'] name, Text.breakOn? ['='] name with
  | some p, _, _ => make p
  | none, some p, _ => make p
  | none, none, some p => make p
  | none, none, none => .name (String.ofList name)

/-- A class by name; the next character is `p` or `P`. -/
def readUnicodeClass : Read (Query × Bool) := do
  let negated := (← peek) = some 'P'
  advanceSkip
  let c ← demand "incomplete escape sequence"
  if c = '{' then
    let name ← collectTo '}'
    advance
    let inverted := Text.contains ['!', '='] name
    return (query name, negated != inverted)
  if c = '\\' then refuse "invalid Unicode character class"
  advanceSkip
  return (.name (String.singleton c), negated)

/-- The characters that have a meaning of their own. -/
def isMeta (c : Char) : Bool := "\\.+*?()|[]\x7b\x7d^$#&-~".toList.contains c

/-- The characters that may stand behind a backslash for themselves. -/
def isEscapable (c : Char) : Bool :=
  isMeta c || (c.toNat < 128 && !c.isAlphanum && c != '<' && c != '>')

/-- A letter or a hyphen, as in the name of a word boundary. -/
def isBoundaryChar (c : Char) : Bool := c.isAlpha || c == '-'

/-- The kind of word boundary in braces behind `\b`, if it is one: what opens with
anything but a letter or a hyphen is a repetition. -/
def readBoundary : Read Assertion := do
  let start ← get
  if start.rest.head? != some '{' then return .wordBoundary
  advanceSkip
  let c ← demand "special word boundary or repetition ends unexpectedly"
  if !isBoundaryChar c then
    set start
    return .wordBoundary
  set start
  let name ← collectTo '}'
  advance
  match String.ofList name with
  | "start" => return .wordStart
  | "end" => return .wordEnd
  | "start-half" => return .wordStartHalf
  | "end-half" => return .wordEndHalf
  | _ => refuse "unrecognized special word boundary assertion"

/-- The class of a letter behind a backslash. -/
def perlClass? : Char → Option (PerlClass × Bool)
  | 'd' => some (.digit, false)
  | 'D' => some (.digit, true)
  | 's' => some (.space, false)
  | 'S' => some (.space, true)
  | 'w' => some (.word, false)
  | 'W' => some (.word, true)
  | _ => none

/-- The control character of a letter behind a backslash. -/
def control? : Char → Option Char
  | 'a' => some '\x07'
  | 'f' => some '\x0c'
  | 't' => some '\t'
  | 'n' => some '\n'
  | 'r' => some '\r'
  | 'v' => some '\x0b'
  | _ => none

/-- The assertion of a letter behind a backslash, but for `b`. -/
def assertion? : Char → Option Assertion
  | 'A' => some .startText
  | 'z' => some .endText
  | 'B' => some .notWordBoundary
  | '<' => some .wordStart
  | '>' => some .wordEnd
  | _ => none

/-- What stands behind a backslash; the backslash has been passed. -/
def readEscape : Read Ast := do
  let c ← demand "incomplete escape sequence"
  if c.isDigit then refuse "backreferences are not supported"
  if c = 'x' ∨ c = 'u' ∨ c = 'U' then return .literal (← readHex)
  if c = 'p' ∨ c = 'P' then
    let (q, negated) ← readUnicodeClass
    return .unicode q negated
  advance
  if let some (kind, negated) := perlClass? c then return .perl kind negated
  if isEscapable c then return .literal ⟨c, false⟩
  if let some d := control? c then return .literal ⟨d, false⟩
  if c = 'b' then return .assertion (← readBoundary)
  if let some a := assertion? c then return .assertion a
  refuse "unrecognized escape sequence"

/-! ## Bracketed classes -/

/-- The classes of `[:name:]`. -/
def asciiClass? : String → Option CharSet
  | "alnum" => some [(48, 57), (65, 90), (97, 122)]
  | "alpha" => some [(65, 90), (97, 122)]
  | "ascii" => some [(0, 127)]
  | "blank" => some [(9, 9), (32, 32)]
  | "cntrl" => some [(0, 31), (127, 127)]
  | "digit" => some [(48, 57)]
  | "graph" => some [(33, 126)]
  | "lower" => some [(97, 122)]
  | "print" => some [(32, 126)]
  | "punct" => some [(33, 47), (58, 64), (91, 96), (123, 126)]
  | "space" => some [(9, 13), (32, 32)]
  | "upper" => some [(65, 90)]
  | "word" => some [(48, 57), (65, 90), (95, 95), (97, 122)]
  | "xdigit" => some [(48, 57), (65, 70), (97, 102)]
  | _ => none

/-- `[:name:]` or `[:^name:]` at the head of a text, and the text behind it. -/
def namedAscii? (cs : List Char) : Option (ClassSet × List Char) := do
  let body ← Text.dropLead? ['[', ':'] cs
  let (negated, body) := match body with
    | '^' :: r => (true, r)
    | r => (false, r)
  let (name, rest) ← Text.breakOn? [':'] body
  let rest ← Text.dropLead? [']'] rest
  let ranges ← asciiClass? (String.ofList name)
  return (.ascii ranges negated, rest)

/-- One item of a class: a literal or an escape. -/
def readItem : Read Ast := do
  let c ← demand "unclosed character class"
  advance
  if c = '\\' then readEscape else return .literal ⟨c, false⟩

/-- An item that stands alone. -/
def loneItem : Ast → Read ClassSet
  | .literal c => return .literal c
  | .perl k n => return .perl k n
  | .unicode q n => return .unicode q n
  | _ => refuse "invalid escape sequence found in character class"

/-- An item that ends a range. -/
def rangeEnd : Ast → Read Literal
  | .literal c => return c
  | _ => refuse "invalid range boundary, must be a literal"

/-- The character behind the next one, blanks left out if they do not count. -/
def peekBehind : Read (Option Char) := do
  let s ← get
  let rest := s.rest.drop 1
  return (if s.verbose then skipBlanks false rest else rest).head?

/-- A literal, a range, or a class by escape. -/
def readRange : Read ClassSet := do
  let first ← readItem
  skip
  let c ← demand "unclosed character class"
  let behind ← peekBehind
  if c != '-' || behind = some ']' || behind = some '-' then loneItem first
  else
    advanceSkip
    let last ← readItem
    let a ← rangeEnd first
    let b ← rangeEnd last
    if a.char ≤ b.char then return .range a b
    refuse "invalid character class range"

/-- The union of items that were gathered in reverse. -/
def unionOf : List ClassSet → ClassSet
  | [s] => s
  | items => .union items.reverse

/-- What has been gathered as the right side of the last operation. -/
def closeOp (left : Option (SetOp × ClassSet)) (items : List ClassSet) : ClassSet :=
  match left with
  | some (kind, l) => .op kind l (unionOf items)
  | none => unionOf items

/-- The operation at the head of a text. -/
def setOp? : List Char → Option SetOp
  | '&' :: '&' :: _ => some .intersection
  | '-' :: '-' :: _ => some .difference
  | '~' :: '~' :: _ => some .symmetricDifference
  | _ => none

/-- Leading hyphens stand for themselves. -/
def leadingHyphens : Nat → List ClassSet → Read (List ClassSet)
  | 0, items => return items
  | n + 1, items => do
    if (← demand "unclosed character class") = '-' then
      advanceSkip
      leadingHyphens n (.literal ⟨'-', false⟩ :: items)
    else return items

/-- The start of a class: its negation, and the characters that stand for
themselves only there.  The bracket is the next character. -/
def openClass : Read (Bool × List ClassSet) := do
  advanceSkip
  let negated := (← demand "unclosed character class") = '^'
  if negated then advanceSkip
  let items ← leadingHyphens ((← get).rest.length + 1) []
  if items.isEmpty && (← demand "unclosed character class") = ']' then
    advanceSkip
    return (negated, [.literal ⟨']', false⟩])
  return (negated, items)

mutual

/-- A class; its opening bracket is the next character. -/
def readClass : Nat → Read (Bool × ClassSet)
  | 0 => refuse "unclosed character class"
  | n + 1 => do
    let (negated, items) ← openClass
    return (negated, ← readClassItems n none items)

/-- The items of a class up to its closing bracket. -/
def readClassItems : Nat → Option (SetOp × ClassSet) → List ClassSet → Read ClassSet
  | 0, _, _ => refuse "unclosed character class"
  | n + 1, left, items => do
    skip
    let c ← demand "unclosed character class"
    let s ← get
    if c = ']' then
      advance
      return closeOp left items
    else if c = '[' then
      match namedAscii? s.rest with
      | some (set, rest) =>
        MonadStateOf.set { s with rest := rest }
        readClassItems n left (set :: items)
      | none =>
        let (negated, set) ← readClass n
        readClassItems n left (.bracketed negated set :: items)
    else match setOp? s.rest with
      | some kind =>
        advance 2
        readClassItems n (some (kind, closeOp left items)) []
      | none =>
        let item ← readRange
        readClassItems n left (item :: items)

end

/-! ## Repetitions -/

/-- The digits at the head of a text and what follows; blanks between them do not
count if `verbose`. -/
def takeDigits (verbose : Bool) : List Char → List Char × List Char
  | [] => ([], [])
  | c :: cs =>
    if c.isDigit then
      let r := takeDigits verbose cs
      (c :: r.1, r.2)
    else if verbose && Text.isBlank c then
      let r := takeDigits verbose cs
      if r.1.isEmpty then ([], c :: cs) else r
    else ([], c :: cs)

/-- A bound of a repetition with blanks around it; nothing if there is no digit. -/
def readBound : Read (Option Nat) := do
  let s ← get
  let (ds, rest) := takeDigits s.verbose (s.rest.dropWhile Text.isBlank)
  set { s with rest := rest.dropWhile Text.isBlank }
  skip
  if ds.isEmpty then return none
  let n := ds.foldl (fun n c => 10 * n + (c.toNat - 48)) 0
  if n < UInt32.size then return some n
  refuse "decimal literal invalid"

/-- Passes the mark of a lazy repetition, which changes no match. -/
def skipLazyMark : Read Unit := do
  if (← peek) = some '?' then advance

/-- The bounds in braces; the brace is the next character. -/
def readCounts : Read (Nat × Option Nat) := do
  advanceSkip
  let first ← readBound
  let c ← demand "unclosed counted repetition"
  let some least := first | refuse "repetition quantifier expects a valid decimal"
  let most ←
    if c = ',' then do
      advanceSkip
      if (← demand "unclosed counted repetition") = '}' then pure none
      else
        let some most ← readBound | refuse "repetition quantifier expects a valid decimal"
        pure (some most)
    else pure (some least)
  if (← peek) != some '}' then refuse "unclosed counted repetition"
  advanceSkip
  skipLazyMark
  if most.any (· < least) then refuse "invalid repetition count range"
  return (least, most)

/-! ## Groups -/

/-- The flag of a letter. -/
def flag? : Char → Option Flag
  | 'i' => some .caseInsensitive
  | 'm' => some .multiLine
  | 's' => some .dotAll
  | 'U' => some .swapGreed
  | 'u' => some .unicode
  | 'R' => some .crlf
  | 'x' => some .verbose
  | _ => none

/-- The change that flag letters stand for: each flag once, and at most one
hyphen, which must have a flag behind it. -/
def flagChange (on : Bool) : List Char → Except Error FlagChange
  | [] => .ok []
  | '-' :: cs =>
    if !on then .error (.malformed "flag negation operator repeated")
    else if cs.isEmpty then .error (.malformed "dangling flag negation operator")
    else flagChange false cs
  | c :: cs =>
    match flag? c with
    | none => .error (.malformed "unrecognized flag")
    | some f =>
      match flagChange on cs with
      | .error e => .error e
      | .ok fs =>
        if fs.any (·.1 == f) then .error (.malformed "duplicate flag") else .ok ((f, on) :: fs)

/-- A character of a group name. -/
def isNameChar (first : Bool) (c : Char) : Bool :=
  c == '_' ||
    (if first then Unicode.alphabetic.memChar c
     else c == '.' || c == '[' || c == ']' || Unicode.isAlphanumeric c)

/-- The name of a group up to `>`. -/
def readName : Read Unit := do
  let s ← get
  let name := s.rest.takeWhile (· != '>')
  let rest := s.rest.dropWhile (· != '>')
  if rest.isEmpty then refuse "unclosed capture group name"
  match name with
  | [] => refuse "empty capture group name"
  | c :: cs =>
    if !(isNameChar true c && cs.all (isNameChar false)) then
      refuse "invalid capture group character"
  let text := String.ofList name
  if s.names.contains text then refuse "duplicate capture group name"
  set { s with rest := rest.drop 1, names := text :: s.names }

/-- How a group starts. -/
inductive GroupStart where
  | flags (change : FlagChange)
  | group (change : FlagChange)
  | capture

/-- The start of a group; the parenthesis is the next character. -/
def readGroupStart : Read GroupStart := do
  advance
  skip
  for lead in ["?=", "?!", "?<=", "?<!"] do
    if ← accept lead then refuse "look-around is not supported"
  if ← accept "?P<" then
    readName
    return .capture
  if ← accept "?<" then
    readName
    return .capture
  if !(← accept "?") then return .capture
  let s ← get
  let letters := s.rest.takeWhile fun c => c != ':' && c != ')'
  let rest := s.rest.dropWhile fun c => c != ':' && c != ')'
  let change ← flagChange true letters
  set { s with rest := rest.drop 1 }
  match rest.head? with
  | some ':' => return .group change
  | some ')' =>
    if letters.isEmpty then refuse "repetition operator missing expression"
    return .flags change
  | _ => refuse "unclosed group"

/-- Whether blanks count after a change of flags. -/
def verboseAfter (verbose : Bool) (change : FlagChange) : Bool :=
  change.foldl (fun v f => if f.1 = .verbose then f.2 else v) verbose

/-- Items gathered in reverse, one after the other. -/
def concatOf : List Ast → Ast
  | [] => .empty
  | [a] => a
  | items => .concat items.reverse

/-- Branches gathered in reverse. -/
def alternationOf : List Ast → Ast
  | [a] => a
  | branches => .alternation branches.reverse

/-- Repeats the last item, which must be there and not be a change of flags. -/
def repeatLast (items : List Ast) (least : Nat) (most : Option Nat) : Read (List Ast) :=
  match items with
  | [] | .empty :: _ | .flags _ :: _ => refuse "repetition operator missing expression"
  | a :: rest => return .repetition least most a :: rest

/-- The branches of a group up to its closing parenthesis or the end of the
pattern, with the items and branches so far in reverse. -/
def readBranches : Nat → (items branches : List Ast) → Read Ast
  | 0, _, _ => refuse "unexpected end of pattern"
  | n + 1, items, branches => do
    skip
    match ← peek with
    | none | some ')' => return alternationOf (concatOf items :: branches)
    | some '|' =>
      advance
      readBranches n [] (concatOf items :: branches)
    | some '(' =>
      match ← readGroupStart with
      | .flags change =>
        modify fun s => { s with verbose := verboseAfter s.verbose change }
        readBranches n (.flags change :: items) branches
      | start =>
        let verbose := (← get).verbose
        let change := match start with
          | .group change => change
          | _ => []
        modify fun s => { s with verbose := verboseAfter verbose change }
        let sub ← readBranches n [] []
        if (← peek) != some ')' then refuse "unclosed group"
        advance
        modify fun s => { s with verbose := verbose }
        let ast := match start with
          | .group change => .group change sub
          | _ => .capture sub
        readBranches n (ast :: items) branches
    | some '[' =>
      let (negated, set) ← readClass n
      readBranches n (.bracketed negated set :: items) branches
    | some '?' =>
      advance
      skipLazyMark
      readBranches n (← repeatLast items 0 (some 1)) branches
    | some '*' =>
      advance
      skipLazyMark
      readBranches n (← repeatLast items 0 none) branches
    | some '+' =>
      advance
      skipLazyMark
      readBranches n (← repeatLast items 1 none) branches
    | some '{' =>
      let (least, most) ← readCounts
      readBranches n (← repeatLast items least most) branches
    | some c =>
      advance
      let item ← match c with
        | '\\' => readEscape
        | '.' => pure .dot
        | '^' => pure (.assertion .startLine)
        | '$' => pure (.assertion .endLine)
        | c => pure (.literal ⟨c, false⟩)
      readBranches n (item :: items) branches

/-- Reads a pattern; every step passes at least one character, so its length
bounds the number of steps. -/
def parse (verbose : Bool) (pattern : String) : Except Error Ast := do
  let cs := pattern.toList
  let (ast, s) ← (readBranches (cs.length + 2) [] []).run ⟨cs, verbose, []⟩
  if !s.rest.isEmpty then throw (.malformed "unopened group")
  if ast.depth > nestingLimit then throw (.malformed "exceeded the nesting limit")
  return ast

end Regex
end AgentTool
