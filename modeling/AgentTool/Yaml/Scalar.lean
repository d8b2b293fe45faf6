import AgentTool.Document.Datum

/-!
# What a scalar means

Plain text is read as null, as a truth value or as a number if it has the form
of one; any other text, and text in quotes or blocks, stands for itself.  A tag
of the core schema asks for one of these readings.

| form | reading |
| --- | --- |
| nothing, `~`, `null` | null |
| `true`, `false` | a truth value |
| digits, or `0x`, `0o`, `0b` and digits | an integer |
| digits with a point or an exponent | a float |
| `.inf`, `.nan` | a number that is not finite |

The words may also be written with a capital letter or in capitals, and a sign
may stand before a number.  Digits that open with a needless zero are text.  An
integer beyond 64 bits is refused if 128 bits can hold it, and is a float
otherwise.
-/

namespace AgentTool
namespace Yaml
namespace Scalar

/-- A word in the three ways in which it may be written. -/
def isWord (word text : String) : Bool :=
  text == word || text == word.capitalize || text == word.map Char.toUpper

/-- Null: the word, or a tilde. -/
def isNull (text : String) : Bool := text == "~" || isWord "null" text

/-- A truth value. -/
def bool? (text : String) : Option Bool :=
  if isWord "true" text then some true
  else if isWord "false" text then some false
  else none

/-- The text without a sign, and whether the sign is a minus.  Only one sign is taken. -/
def unsigned : List Char → Bool × List Char
  | '-' :: cs => (true, cs)
  | '+' :: cs => (false, cs)
  | cs => (false, cs)

/-- The value of a digit. -/
def digit? (radix : Nat) (c : Char) : Option Nat :=
  let n :=
    if c.isDigit then c.toNat - 48
    else if 'a' ≤ c ∧ c ≤ 'f' then c.toNat - 87
    else if 'A' ≤ c ∧ c ≤ 'F' then c.toNat - 55
    else radix
  if n < radix then some n else none

/-- The number that digits stand for; there is at least one. -/
def digits? (radix : Nat) (cs : List Char) : Option Nat :=
  if cs.isEmpty then none else cs.foldlM (fun n c => (digit? radix c).map (radix * n + ·)) 0

/-- More than one digit, the first of them a zero. -/
def hasLeadingZero (cs : List Char) : Bool :=
  cs.length > 1 && cs.head? == some '0' && cs.all Char.isDigit

/-- The size of an integer without its sign. -/
def magnitude? : List Char → Option Nat
  | '0' :: 'x' :: cs => digits? 16 cs
  | '0' :: 'o' :: cs => digits? 8 cs
  | '0' :: 'b' :: cs => digits? 2 cs
  | cs => if hasLeadingZero cs then none else digits? 10 cs

/-- How a text can be read as an integer. -/
inductive IntReading where
  | none
  | fits (n : Int)
  /-- beyond 64 bits and within 128 -/
  | large

/-- The integer of a text. -/
def intReading (text : String) : IntReading :=
  let (negative, cs) := unsigned text.toList
  match magnitude? cs with
  | Option.none => .none
  | some n =>
    if negative then
      if n ≤ Nat.pow 2 63 then .fits (-(n : Int)) else if n ≤ Nat.pow 2 127 then .large else .none
    else if n < UInt64.size then .fits n
    else if n < Nat.pow 2 128 then .large
    else .none

/-- An exponent: nothing, or `e`, perhaps a sign, and digits. -/
def exponent? : List Char → Option Int
  | [] => some 0
  | c :: cs =>
    if c == 'e' || c == 'E' then
      let (negative, ds) := unsigned cs
      (digits? 10 ds).map fun n => if negative then -(n : Int) else n
    else none

/-- The number that decimal digits, none included, stand for. -/
def number (cs : List Char) : Nat := cs.foldl (fun n c => 10 * n + (c.toNat - 48)) 0

/-- A decimal: digits with or without a point among or around them, and an exponent. -/
def decimal? (negative : Bool) (cs : List Char) : Option Decimal := do
  let whole := cs.takeWhile Char.isDigit
  let rest := cs.dropWhile Char.isDigit
  let (places, tail) := match rest with
    | '.' :: r => (r.takeWhile Char.isDigit, r.dropWhile Char.isDigit)
    | r => ([], r)
  guard (!(whole ++ places).isEmpty)
  return ⟨negative, number (whole ++ places), (← exponent? tail) - places.length⟩

/-- The float of a text, `infinite` for one that is not finite. -/
def float? (text : String) : Option Datum :=
  let (negative, cs) := unsigned text.toList
  let body := String.ofList cs
  if body == ".inf" || body == ".Inf" || body == ".INF" then some .infinite
  else if text == ".nan" || text == ".NaN" || text == ".NAN" then some .infinite
  else ((decimal? negative cs).bind Decimal.nearest?).map .float

/-- The reading of plain text; integers of more than 64 bits have none if 128 bits hold them. -/
def plain? (text : String) : Option Datum :=
  if text.isEmpty || isNull text then some .null
  else
    match bool? text, intReading text with
    | some b, _ => some (.bool b)
    | none, .fits n => some (.int n)
    | none, .large => none
    | none, .none =>
      if hasLeadingZero (unsigned text.toList).2 then some (.str text)
      else some ((float? text).getD (.str text))

/-- The start of the tags of the core schema. -/
def core : String := "tag:yaml.org,2002:"

/-- A tag that only its document gives a meaning. -/
def isLocal (tag : Option String) : Bool := tag.any fun t => t.startsWith "!"

/-- The reading of a scalar. -/
def read? (tag : Option String) (text : String) (plain : Bool) : Option Datum :=
  if isLocal tag then none
  else if tag == some (core ++ "bool") then (bool? text).map .bool
  else if tag == some (core ++ "int") then
    match intReading text with
    | .fits n => some (.int n)
    | _ => none
  else if tag == some (core ++ "float") then float? text
  else if tag == some (core ++ "null") then if isNull text then some .null else none
  else if tag.isNone && plain then plain? text
  else some (.str text)

end Scalar
end Yaml
end AgentTool
