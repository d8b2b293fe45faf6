import AgentTool.Text.Utf8

/-!
# Percent encoding

Two ways to write any bytes with a few ASCII characters.  `encodeSegment` keeps
letters, digits and `-_.~` and is safe inside one segment of a path;
`encodeForm` keeps letters, digits and `*-._`, writes a space as `+`, and is the
encoding of form fields and queries.  Every other byte becomes `%HH` with upper
case digits.
-/

namespace AgentTool
namespace Text

/-- The hexadecimal digit of a number below sixteen, in upper case. -/
def upperHexDigit (n : Nat) : Char :=
  if n < 10 then Char.ofNat (48 + n) else Char.ofNat (55 + n)

/-- A byte as `%HH`. -/
def percentByte (b : UInt8) : List Char :=
  ['%', upperHexDigit (b.toNat / 16), upperHexDigit (b.toNat % 16)]

/-- A byte that stands for an ASCII letter or digit. -/
def isAlphanumByte (b : UInt8) : Bool := b < 128 && (Char.ofNat b.toNat).isAlphanum

/-- The bytes that a path segment keeps. -/
def isUnreserved (b : UInt8) : Bool :=
  isAlphanumByte b || b == 45 || b == 46 || b == 95 || b == 126

/-- The bytes that a form field keeps. -/
def isFormSafe (b : UInt8) : Bool :=
  isAlphanumByte b || b == 42 || b == 45 || b == 46 || b == 95

/-- A byte inside one segment of a path. -/
def segmentByte (b : UInt8) : List Char :=
  if isUnreserved b then [Char.ofNat b.toNat] else percentByte b

/-- A byte inside a form field. -/
def formByte (b : UInt8) : List Char :=
  if isFormSafe b then [Char.ofNat b.toNat] else if b == 32 then ['+'] else percentByte b

/-- A text as one segment of a path. -/
def encodeSegment (cs : List Char) : List Char := (utf8 cs).flatMap segmentByte

/-- A text as a form field. -/
def encodeForm (cs : List Char) : List Char := (utf8 cs).flatMap formByte

/-- `encodeForm` on strings. -/
def encodeFormString (s : String) : String := String.ofList (encodeForm s.toList)

/-- Pairs as the text of a form: `name=value` joined by `&`. -/
def formText (pairs : List (String × String)) : String :=
  String.intercalate "&" (pairs.map fun p => encodeFormString p.1 ++ "=" ++ encodeFormString p.2)

end Text
end AgentTool
