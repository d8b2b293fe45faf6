import AgentTool.Text.Split
import AgentTool.Text.Percent

/-!
# Addresses of the Internet

| kind | read | written |
| --- | --- | --- |
| version 4 | one to four numbers | four decimal numbers |
| version 6 | eight groups of hexadecimal digits | the same in lower case |

A number of version 4 is decimal, octal behind `0` or hexadecimal behind `0x`, and the last one
fills the bytes that remain.  A group of version 6 has up to four digits, the last two groups may be
written as version 4, and `::` stands for a run of zeros: in an address that is written, for the
first longest one.
-/

namespace AgentTool
namespace Address

/-- The number that digits stand for. -/
def number (base : Nat) (cs : List Char) : Nat :=
  cs.foldl (fun n c => base * n + (
    if c.isDigit then c.toNat - 48 else if c.isLower then c.toNat - 87 else c.toNat - 55)) 0

/-- A hexadecimal digit. -/
def isHex (c : Char) : Bool :=
  c.isDigit || ('a' ≤ c && c ≤ 'f') || ('A' ≤ c && c ≤ 'F')

/-- An octal digit. -/
def isOctal (c : Char) : Bool := '0' ≤ c && c ≤ '7'

/-- A part of an address of version 4. -/
def part? : List Char → Option Nat
  | [] => none
  | '0' :: 'x' :: ds | '0' :: 'X' :: ds => if ds.all isHex then some (number 16 ds) else none
  | '0' :: d :: ds => if (d :: ds).all isOctal then some (number 8 (d :: ds)) else none
  | ds => if ds.all Char.isDigit then some (number 10 ds) else none

/-- The parts of a name, without the empty part behind a last full stop. -/
def nameParts (cs : List Char) : List (List Char) :=
  let parts := Text.fields '.' cs
  if parts.getLast? = some [] then parts.dropLast else parts

/-- A name whose last part is a number must be an address. -/
def endsInNumber (cs : List Char) : Bool :=
  match (nameParts cs).getLast? with
  | some last => (!last.isEmpty && last.all Char.isDigit) || (part? last).isSome
  | none => false

/-- An address of version 4 as one number. -/
def readV4? (cs : List Char) : Option Nat := do
  let parts := nameParts cs
  if 4 < parts.length then none
  else
    let numbers ← parts.mapM part?
    let last ← numbers.getLast?
    let front := numbers.dropLast
    if front.all (· < 256) && last < Nat.pow 256 (4 - front.length) then
      return front.foldl (fun n b => n * 256 + b) 0 * Nat.pow 256 (4 - front.length) + last
    else none

/-- The text of an address of version 4. -/
def textV4 (n : Nat) : String :=
  String.intercalate "." ([n / 16777216, n / 65536 % 256, n / 256 % 256, n % 256].map toString)

/-- A decimal number below 256 without a leading zero. -/
def byte? (cs : List Char) : Option Nat :=
  match cs with
  | [] => none
  | d :: ds =>
    if (d :: ds).all Char.isDigit && (ds.isEmpty || d != '0') && number 10 (d :: ds) < 256 then
      some (number 10 (d :: ds))
    else none

/-- The two groups of four decimal bytes. -/
def tailV4? (cs : List Char) : Option (List Nat) :=
  match (Text.fields '.' cs).mapM byte? with
  | some [a, b, c, d] => some [a * 256 + b, c * 256 + d]
  | _ => none

/-- A group of up to four hexadecimal digits. -/
def group? (cs : List Char) : Option Nat :=
  if !cs.isEmpty && cs.length ≤ 4 && cs.all isHex then some (number 16 cs) else none

/-- Groups with colons between them; the last may be of version 4 if `tail` is set. -/
def groups? (tail : Bool) (cs : List Char) : Option (List Nat) :=
  if cs.isEmpty then some []
  else
    let parts := Text.fields ':' cs
    match parts.getLast? with
    | none => none
    | some last => do
      let front ← parts.dropLast.mapM group?
      let ending ← if tail && last.contains '.' then tailV4? last else (group? last).map ([·])
      return front ++ ending

/-- The eight groups of an address of version 6. -/
def readV6? (cs : List Char) : Option (List Nat) :=
  match Text.breakOn? [':', ':'] cs with
  | none => do
    let groups ← groups? true cs
    if groups.length = 8 then return groups else none
  | some (left, right) => do
    let before ← groups? false left
    let behind ← groups? true right
    let given := before.length + behind.length
    if given ≤ 7 then return before ++ List.replicate (8 - given) 0 ++ behind else none

/-- The length of the run of zeros at the head. -/
def zeros (ns : List Nat) : Nat := (ns.takeWhile (· == 0)).length

/-- The start and length of the first longest run of zeros, from position `i` on. -/
def longestZeros (i : Nat) : List Nat → Nat × Nat
  | [] => (i, 0)
  | n :: ns =>
    let here := zeros (n :: ns)
    let later := longestZeros (i + 1) ns
    if here = 0 ∨ here < later.2 then later else (i, here)

/-- A number in hexadecimal. -/
def hexText (n : Nat) : String := String.ofList (Nat.toDigits 16 n)

/-- Groups with colons between them. -/
def groupsText (ns : List Nat) : String := String.intercalate ":" (ns.map hexText)

/-- The text of an address of version 6. -/
def textV6 (ns : List Nat) : String :=
  let (start, length) := longestZeros 0 ns
  if length < 2 then groupsText ns
  else groupsText (ns.take start) ++ "::" ++ groupsText (ns.drop (start + length))

end Address
end AgentTool
