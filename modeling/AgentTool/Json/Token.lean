import AgentTool.Decimal.Scaling
import AgentTool.Decimal.Shortest

/-!
# JSON tokens

A JSON text is a sequence of tokens with blanks (space, tab, line feed,
carriage return) between them.  `Token.text` writes a token, `Lexer.run` reads
a text character by character; both are strict:

| token | written |
| --- | --- |
| string | `"…"`, with `\" \\ \b \f \n \r \t`, `\u00xx` for other control characters |
| integer | in decimal |
| float | shortest digits; positional for `1e-5 ≤ abs x < 1e16` and zero, always with a point |
| float elsewhere | `d.ddde+xx` or `d.ddde-xx` |

A number without point and exponent is an integer if it fits 64 bits, signed or
unsigned; every other number, `-0` among them, is a float.  Only as many digits of
a float count as fit a word of 64 bits, and it is this word scaled by a power of
ten, which need not be the nearest value to the number that is written.
-/

namespace AgentTool
namespace Json

/-- A token of JSON text. -/
inductive Token where
  | openArr | closeArr | openObj | closeObj | comma | colon
  | null
  | bool (b : Bool)
  | int (n : Int)
  | float (x : Binary64)
  | str (s : String)
  deriving DecidableEq, Repr

/-! ## Writing -/

/-- The decimal digits of a natural number. -/
def digitText (n : Nat) : List Char := Nat.toDigits 10 n

/-- The text of an integer. -/
def intText (n : Int) : List Char :=
  if n < 0 then '-' :: digitText n.natAbs else digitText n.natAbs

/-- The digits with a point before the last `places` of them, and at least one digit on each side.
-/
def withPoint (digits : List Char) (places : Nat) : List Char :=
  let padded := List.replicate (places + 1 - digits.length) '0' ++ digits
  let cut := padded.length - places
  padded.take cut ++ '.' :: padded.drop cut

/-- The text of an exponent with its sign. -/
def exponentText (e : Int) : List Char :=
  'e' :: (if e < 0 then '-' else '+') :: digitText e.natAbs

/-- The text of a finite decimal: positional from `1e-5` up to `1e16`, scientific outside. -/
def decimalText (d : Decimal) : List Char :=
  let sign := if d.negative then ['-'] else []
  let digits := digitText d.digits
  let top : Int := digits.length + d.exponent - 1
  sign ++
    (if d.digits = 0 then ['0', '.', '0']
     else if -5 ≤ top ∧ top < 16 then
       if d.exponent ≥ 0 then digits ++ List.replicate d.exponent.toNat '0' ++ ['.', '0']
       else withPoint digits (-d.exponent).toNat
     else match digits with
       | [] => []
       | [c] => c :: exponentText top
       | c :: cs => c :: '.' :: cs ++ exponentText top)

/-- The hexadecimal digit of a number below sixteen, in lower case. -/
def hexDigit (n : Nat) : Char :=
  if n < 10 then Char.ofNat (48 + n) else Char.ofNat (87 + n)

/-- A character of a string as it is written between the quotes. -/
def escapeChar (c : Char) : List Char :=
  if c = '"' then ['\\', '"']
  else if c = '\\' then ['\\', '\\']
  else if c = '\x08' then ['\\', 'b']
  else if c = '\x0c' then ['\\', 'f']
  else if c = '\n' then ['\\', 'n']
  else if c = '\r' then ['\\', 'r']
  else if c = '\t' then ['\\', 't']
  else if c.toNat < 32 then
    ['\\', 'u', '0', '0', hexDigit (c.toNat / 16), hexDigit (c.toNat % 16)]
  else [c]

/-- A string between quotes. -/
def quoted (s : String) : List Char := '"' :: s.toList.flatMap escapeChar ++ ['"']

/-- The text of a token. -/
def Token.text : Token → List Char
  | .openArr => ['[']
  | .closeArr => [']']
  | .openObj => ['{']
  | .closeObj => ['}']
  | .comma => [',']
  | .colon => [':']
  | .null => ['n', 'u', 'l', 'l']
  | .bool true => ['t', 'r', 'u', 'e']
  | .bool false => ['f', 'a', 'l', 's', 'e']
  | .int n => intText n
  | .float x => decimalText x.shortest
  | .str s => quoted s

/-! ## Reading -/

/-- The value of a decimal digit. -/
def digitValue? (c : Char) : Option Nat :=
  if c.isDigit then some (c.toNat - 48) else none

/-- The value of a hexadecimal digit. -/
def hexValue? (c : Char) : Option Nat :=
  if c.isDigit then some (c.toNat - 48)
  else if 'a' ≤ c ∧ c ≤ 'f' then some (c.toNat - 87)
  else if 'A' ≤ c ∧ c ≤ 'F' then some (c.toNat - 55)
  else none

/-- The number that decimal digits stand for. -/
def digitsValue (cs : List Char) : Nat := cs.foldl (fun n c => 10 * n + (c.toNat - 48)) 0

/-- A whole part: `0`, or digits that do not open with `0`. -/
def isWholePart : List Char → Bool
  | [] => false
  | ['0'] => true
  | c :: cs => c != '0' && (c :: cs).all Char.isDigit

/-- The exponent after `e` or `E`: an optional sign and at least one digit. -/
def exponentValue? (cs : List Char) : Option Int :=
  let (negative, digits) := match cs with
    | '+' :: r => (false, r)
    | '-' :: r => (true, r)
    | r => (false, r)
  if digits.isEmpty || !digits.all Char.isDigit then none
  else some (if negative then -(digitsValue digits : Int) else digitsValue digits)

/-- The digits behind a point, if there is one, and what follows them. -/
def fraction : List Char → List Char × List Char
  | '.' :: r => (r.takeWhile Char.isDigit, r.dropWhile Char.isDigit)
  | r => ([], r)

/-- The exponent at the end of a number, if it has one. -/
def exponent? : List Char → Option (Option Int)
  | [] => some none
  | c :: r => if c = 'e' ∨ c = 'E' then (exponentValue? r).map some else none

/-- The number of digits behind those of `n`, as far as it fits a word of 64 bits, and the digits
that are left. -/
def wordOfDigits (n : Nat) : List Char → Nat × List Char
  | [] => (n, [])
  | c :: cs =>
    if 10 * n + (c.toNat - 48) < UInt64.size then wordOfDigits (10 * n + (c.toNat - 48)) cs
    else (n, c :: cs)

/-- The float of digits in front of a point and behind it, times a power of ten.  Digits in front
that are left count as tens, and those behind do not count. -/
def float? (negative : Bool) (whole places : List Char) (exponent : Int) : Option Binary64 :=
  let (n, tens) := wordOfDigits 0 whole
  let (m, rest) := wordOfDigits n places
  Binary64.ofScaled? negative m (exponent + tens.length + rest.length - places.length)

/-- A number behind its sign. -/
def unsigned? (negative : Bool) (body : List Char) : Option Token := do
  let whole := body.takeWhile Char.isDigit
  let rest := body.dropWhile Char.isDigit
  guard (isWholePart whole)
  let (places, tail) := fraction rest
  guard (rest.head? = some '.' → places ≠ [])
  let exponent ← exponent? tail
  let n := digitsValue whole
  if places.isEmpty ∧ exponent = none ∧
      (if negative then 0 < n ∧ n ≤ Nat.pow 2 63 else n < UInt64.size) then
    return .int (if negative then -(n : Int) else n)
  return .float (← float? negative whole places (exponent.getD 0))

/-- A number by the JSON grammar, as an integer or a float token. -/
def number? : List Char → Option Token
  | '-' :: body => unsigned? true body
  | body => unsigned? false body

/-- A literal name. -/
def word? : List Char → Option Token
  | ['n', 'u', 'l', 'l'] => some .null
  | ['t', 'r', 'u', 'e'] => some (.bool true)
  | ['f', 'a', 'l', 's', 'e'] => some (.bool false)
  | _ => none

/-- Where the lexer stands; the text read so far is kept in reverse. -/
inductive Mode where
  /-- between tokens -/
  | between
  /-- within a number -/
  | number (text : List Char)
  /-- within a literal name -/
  | word (text : List Char)
  /-- within a string; `high` is a leading surrogate that waits for its second half -/
  | string (text : List Char) (high : Option Nat)
  /-- after a backslash -/
  | escape (text : List Char) (high : Option Nat)
  /-- within the four digits after `\u` -/
  | unicode (text : List Char) (high : Option Nat) (digits : List Nat)

/-- The state of the lexer: the mode and the tokens read so far, in reverse. -/
structure Lexer where
  mode : Mode
  tokens : List Token

namespace Lexer

/-- The token of a punctuation character. -/
def punctuation? : Char → Option Token
  | '[' => some .openArr
  | ']' => some .closeArr
  | '{' => some .openObj
  | '}' => some .closeObj
  | ',' => some .comma
  | ':' => some .colon
  | _ => none

/-- A character of a number. -/
def isNumberChar (c : Char) : Bool :=
  c.isDigit || c == '-' || c == '+' || c == '.' || c == 'e' || c == 'E'

/-- A character between tokens: a blank, or the start of a token. -/
def start (tokens : List Token) (c : Char) : Option Lexer :=
  if c = ' ' ∨ c = '\t' ∨ c = '\n' ∨ c = '\r' then some ⟨.between, tokens⟩
  else if c = '"' then some ⟨.string [] none, tokens⟩
  else if c.isDigit ∨ c = '-' then some ⟨.number [c], tokens⟩
  else if c = 'n' ∨ c = 't' ∨ c = 'f' then some ⟨.word [c], tokens⟩
  else (punctuation? c).map fun t => ⟨.between, t :: tokens⟩

/-- The character that a letter stands for after a backslash. -/
def unescape? : Char → Option Char
  | '"' => some '"'
  | '\\' => some '\\'
  | '/' => some '/'
  | 'b' => some '\x08'
  | 'f' => some '\x0c'
  | 'n' => some '\n'
  | 'r' => some '\r'
  | 't' => some '\t'
  | _ => none

/-- The string after the code unit `unit` has been read: surrogates come in pairs. -/
def codeUnit (text : List Char) (high : Option Nat) (unit : Nat) : Option Mode :=
  let isHigh := 0xD800 ≤ unit && unit < 0xDC00
  let isLow := 0xDC00 ≤ unit && unit < 0xE000
  match high with
  | some h =>
    if isLow then
      some (.string (Char.ofNat (0x10000 + (h - 0xD800) * 0x400 + (unit - 0xDC00)) :: text) none)
    else none
  | none =>
    if isHigh then some (.string text (some unit))
    else if isLow then none
    else some (.string (Char.ofNat unit :: text) none)

/-- One character further. -/
def step (l : Lexer) (c : Char) : Option Lexer :=
  match l.mode with
  | .between => start l.tokens c
  | .number text =>
    if isNumberChar c then some ⟨.number (c :: text), l.tokens⟩
    else do start ((← number? text.reverse) :: l.tokens) c
  | .word text =>
    if c.isAlpha then some ⟨.word (c :: text), l.tokens⟩
    else do start ((← word? text.reverse) :: l.tokens) c
  | .string text high =>
    if c = '\\' then some ⟨.escape text high, l.tokens⟩
    else if high.isSome then none
    else if c = '"' then some ⟨.between, .str (String.ofList text.reverse) :: l.tokens⟩
    else if c.toNat < 32 then none
    else some ⟨.string (c :: text) none, l.tokens⟩
  | .escape text high =>
    if c = 'u' then some ⟨.unicode text high [], l.tokens⟩
    else if high.isSome then none
    else (unescape? c).map fun d => ⟨.string (d :: text) none, l.tokens⟩
  | .unicode text high digits => do
    let d ← hexValue? c
    match digits with
    | [a, b, e] =>
      let mode ← codeUnit text high (((a * 16 + b) * 16 + e) * 16 + d)
      return ⟨mode, l.tokens⟩
    | ds => return ⟨.unicode text high (ds ++ [d]), l.tokens⟩

/-- The tokens once the text has ended. -/
def finish (l : Lexer) : Option (List Token) :=
  match l.mode with
  | .between => some l.tokens.reverse
  | .number text => (number? text.reverse).map fun t => (t :: l.tokens).reverse
  | .word text => (word? text.reverse).map fun t => (t :: l.tokens).reverse
  | _ => none

/-- Reads a text from a given state on. -/
def run (l : Lexer) (cs : List Char) : Option Lexer := cs.foldlM step l

end Lexer

/-- The tokens of a text. -/
def tokenize? (cs : List Char) : Option (List Token) :=
  (Lexer.run ⟨.between, []⟩ cs).bind Lexer.finish

end Json
end AgentTool
