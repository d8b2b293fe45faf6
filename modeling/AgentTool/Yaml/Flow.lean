import AgentTool.Yaml.Cursor

/-!
# Plain and quoted text

Text that goes over several lines is folded: blanks around a line break are
dropped, one line feed becomes a space, and of several the first is dropped.  A
`Gap` is what stands between two stretches of text.

In double quotes a backslash starts an escape; at the end of a line it joins the
lines without a space.
-/

namespace AgentTool
namespace Yaml

/-- The blanks and line breaks since the last visible character. -/
structure Gap where
  /-- blanks before the first break -/
  blanks : List Char := []
  /-- the first break; an escaped break has no text -/
  first : Option (List Char) := none
  /-- the breaks after the first -/
  more : List Char := []

namespace Gap

/-- The gap with one more blank; behind a break it has no effect. -/
def withBlank (g : Gap) (c : Char) : Gap :=
  if g.first.isSome then g else { g with blanks := g.blanks ++ [c] }

/-- The gap with one more break. -/
def withBreak (g : Gap) (c : Char) : Gap :=
  if g.first.isSome then { g with more := g.more ++ [c] } else { g with first := some [c] }

/-- Whether a line ends in the gap. -/
def isBroken (g : Gap) : Bool := g.first.isSome

/-- Whether there is no gap. -/
def isEmpty (g : Gap) : Bool := g.blanks.isEmpty && !g.isBroken

/-- What a gap becomes when more text follows. -/
def folded (g : Gap) : List Char :=
  match g.first with
  | none => g.blanks
  | some ['\n'] => if g.more.isEmpty then [' '] else g.more
  | some first => first ++ g.more

end Gap

/-- Brackets and commas, which end plain text in a flow collection. -/
def isFlowMark (c : Char) : Bool := c == ',' || c == '[' || c == ']' || c == '\x7b' || c == '\x7d'

/-- The plain text from the cursor on, whether a line ends behind it, and the cursor behind it.
Outside flow collections text on a column before `indent` is not part of it. -/
def plainText (inFlow : Bool) (indent : Int) (text : List Char) (gap : Gap) (c : Cursor) :
    Except Error (String × Bool × Cursor) :=
  let done : Except Error (String × Bool × Cursor) :=
    .ok (String.ofList text.reverse, gap.isBroken, c)
  match _h : c.rest with
  | [] => done
  | x :: xs =>
    if isBlank x then
      if x == '\t' && gap.isBroken && decide ((c.column : Int) < indent) then
        c.fail .tabForIndentation
      else plainText inFlow indent text (gap.withBlank x) (c.behind x xs)
    else if isBreak x then plainText inFlow indent text (gap.withBreak x) (c.behind x xs)
    else if !gap.isEmpty && (x == '#' || !inFlow && decide ((c.column : Int) < indent)) ||
        c.atDocument then done
    else if inFlow && x == ':' && (xs.head?.any fun y => isFlowMark y || y == '?') then
      c.fail .colonInFlow
    else if x == ':' && atGap xs || inFlow && isFlowMark x then done
    else plainText inFlow indent (x :: (gap.folded.reverse ++ text)) {} (c.behind x xs)
termination_by c.rest.length
decreasing_by all_goals simp only [Cursor.rest_behind, _h, List.length_cons, Nat.lt_succ_self]

/-- The character of an escape of one letter. -/
def escaped? : Char → Option Char
  | '0' => some '\x00'
  | 'a' => some '\x07'
  | 'b' => some '\x08'
  | 't' => some '\t'
  | '\t' => some '\t'
  | 'n' => some '\n'
  | 'v' => some '\x0b'
  | 'f' => some '\x0c'
  | 'r' => some '\r'
  | 'e' => some '\x1b'
  | ' ' => some ' '
  | '"' => some '"'
  | '/' => some '/'
  | '\\' => some '\\'
  | 'N' => some '\u0085'
  | '_' => some '\u00a0'
  | 'L' => some '\u2028'
  | 'P' => some '\u2029'
  | _ => none

/-- The number of hexadecimal digits that follow the letter of an escape. -/
def escapeDigits : Char → Nat
  | 'x' => 2
  | 'u' => 4
  | 'U' => 8
  | _ => 0

/-- The value of a hexadecimal digit. -/
def hexDigit? (c : Char) : Option Nat :=
  if c.isDigit then some (c.toNat - 48)
  else if 'a' ≤ c ∧ c ≤ 'f' then some (c.toNat - 87)
  else if 'A' ≤ c ∧ c ≤ 'F' then some (c.toNat - 55)
  else none

/-- The number that hexadecimal digits stand for. -/
def hexNumber? (cs : List Char) : Option Nat :=
  cs.foldlM (fun n c => (hexDigit? c).map (16 * n + ·)) 0

/-- The character of an escape and how many characters follow its letter. -/
def escape (letter : Char) (rest : List Char) : Except Problem (Char × Nat) :=
  match escaped? letter, escapeDigits letter with
  | some c, _ => .ok (c, 0)
  | none, 0 => .error .unknownEscape
  | none, n =>
    match hexNumber? (rest.take n) with
    | none => .error .unknownEscape
    | some code =>
      if (rest.take n).length < n then .error .unknownEscape
      else if h : code.isValidChar then .ok (Char.ofNatAux code h, n)
      else .error .badCodePoint

/-- The cursor behind `n` characters none of which is a break. -/
def Cursor.past (c : Cursor) (n : Nat) : Cursor :=
  { c with rest := c.rest.drop n, column := c.column + n, index := c.index + n }

/-- The text of a scalar behind its opening quote, and the cursor behind the closing one. -/
def quotedText (single : Bool) (text : List Char) (gap : Gap) (c : Cursor) :
    Except Error (String × Cursor) :=
  match _h : c.rest with
  | [] => c.fail .unclosedQuote
  | x :: xs =>
    if isBlank x then quotedText single text (gap.withBlank x) (c.behind x xs)
    else if isBreak x then quotedText single text (gap.withBreak x) (c.behind x xs)
    else if c.atDocument then c.fail .documentInQuote
    else
      let sofar := gap.folded.reverse ++ text
      if x == (if single then '\'' else '"') then
        if single && xs.head? == some '\'' then
          quotedText single ('\'' :: sofar) {} ((c.behind x xs).behind '\'' xs.tail)
        else .ok (String.ofList sofar.reverse, c.behind x xs)
      else if x == '\\' && !single then
        match xs.head? with
        | none => c.fail .unclosedQuote
        | some y =>
          let behind := (c.behind x xs).behind y xs.tail
          if isBreak y then quotedText single sofar { first := some [] } behind
          else
            match escape y xs.tail with
            | .error p => c.fail p
            | .ok (z, n) => quotedText single (z :: sofar) {} (behind.past n)
      else quotedText single (x :: sofar) {} (c.behind x xs)
termination_by c.rest.length
decreasing_by
  all_goals simp only [Cursor.rest_behind, Cursor.past, _h, List.length_cons, List.length_tail,
    List.length_drop]
  all_goals omega

end Yaml
end AgentTool
