import AgentTool.Yaml.Token
import AgentTool.Yaml.Flow

/-!
# Anchors, tags and directives

A tag is a handle and a rest; the handle stands for the start of a longer name.
`!<name>` gives a name in full, `!` alone is a name of its own.  In a rest a
character may be written as `%` and the hexadecimal digits of its bytes.

| directive | effect |
| --- | --- |
| `%YAML major.minor` | names the version of the language |
| `%TAG handle start` | lets a handle stand for the start of a tag |
-/

namespace AgentTool
namespace Yaml

/-- A name behind `&` or `*`, and the cursor behind it. -/
def anchorName (c : Cursor) : Except Error (String × Cursor) :=
  let name := c.run isName
  let after := c.skip name.length
  let ended := after.head?.all fun x =>
    isBlank x || isBreak x || [ '?', ':', ',', ']', '\x7d', '%', '@', '\x60' ].contains x
  if name.isEmpty || !ended then after.fail .badAnchor else .ok (String.ofList name, after)

/-- A character of the rest of a tag that needs no escape.  Brackets and commas stand only in a
name that is given in full. -/
def isTagChar (full : Bool) (c : Char) : Bool :=
  isName c || ";/?:@&=+$.!~*'()".contains c || full && (c == ',' || c == '[' || c == ']')

/-- The byte that is written as `%` and two hexadecimal digits. -/
def escapedByte? : List Char → Option Nat
  | '%' :: a :: b :: _ => hexNumber? [a, b]
  | _ => none

/-- The payload of the first byte of a character and how many bytes follow it. -/
def firstByte? (b : Nat) : Option (Nat × Nat) :=
  if b < 0x80 then some (b, 0)
  else if b / 0x20 = 0x6 then some (b % 0x20, 1)
  else if b / 0x10 = 0xe then some (b % 0x10, 2)
  else if b / 0x8 = 0x1e then some (b % 0x8, 3)
  else none

/-- The number that `n` more escaped bytes make of `code`. -/
def moreBytes? : Nat → Nat → List Char → Option Nat
  | 0, code, _ => some code
  | n + 1, code, cs => do
    let b ← escapedByte? cs
    guard (b / 0x40 = 2)
    moreBytes? n (code * 0x40 + b % 0x40) (cs.drop 3)

/-- The character that escaped bytes make, and how many there are. -/
def escapedChar? (cs : List Char) : Option (Char × Nat) := do
  let (payload, more) ← firstByte? (← escapedByte? cs)
  return (Char.ofNat (← moreBytes? more payload (cs.drop 3)), more + 1)

/-- The rest of a tag; `fuel` bounds its length. -/
def tagText (full : Bool) : Nat → List Char → Cursor → Except Error (List Char × Cursor)
  | 0, text, c => .ok (text.reverse, c)
  | fuel + 1, text, c =>
    match c.head? with
    | some '%' =>
      match escapedChar? c.rest with
      | some (x, n) => tagText full fuel (x :: text) (c.past (3 * n))
      | none => c.fail .badTagText
    | some x => if isTagChar full x then tagText full fuel (x :: text) c.next
      else .ok (text.reverse, c)
    | none => .ok (text.reverse, c)

/-- The rest of a tag that goes on from `start`; it is not empty. -/
def tagRest (full : Bool) (start : List Char) (c : Cursor) : Except Error (String × Cursor) := do
  let (text, after) ← tagText full (c.rest.length + 1) [] c
  if text.isEmpty && start.isEmpty then after.fail .badTagText
  else return (String.ofList (start.drop 1 ++ text), after)

/-- The text of a handle: a mark, a name, and perhaps a second mark. -/
def handleText (c : Cursor) : Except Error (List Char × Cursor) :=
  if c.head? == some '!' then
    let name := c.next.run isName
    let after := c.next.skip name.length
    if after.head? == some '!' then .ok ('!' :: name ++ ['!'], after.next)
    else .ok ('!' :: name, after)
  else c.fail .badTag

/-- Whether a text is a handle with a second mark. -/
def isHandle (cs : List Char) : Bool := cs.length > 1 && cs.getLast? == some '!'

/-- A tag, and the cursor behind it. -/
def tag (inFlow : Bool) (c : Cursor) : Except Error (Token × Cursor) := do
  let (token, after) ←
    if c.rest[1]? == some '<' then
      let (text, after) ← tagRest true [] (c.skip 2)
      if after.head? == some '>' then .ok (Token.tag "" text, after.next)
      else after.fail .badTag
    else
      let (handle, after) ← handleText c
      if isHandle handle then
        let (text, after) ← tagRest false [] after
        .ok (Token.tag (String.ofList handle) text, after)
      else
        let (text, after) ← tagRest false handle after
        .ok (if text.isEmpty then Token.tag "" "!" else Token.tag "!" text, after)
  if after.atGap || inFlow && after.head? == some ',' then return (token, after)
  else after.fail .badTag

/-- A number of a version: one to nine digits. -/
def versionNumber (c : Cursor) : Except Error (Nat × Cursor) :=
  let digits := c.run Char.isDigit
  if digits.isEmpty || digits.length > 9 then c.fail .badDirective
  else .ok (digits.foldl (fun n d => 10 * n + (d.toNat - 48)) 0, c.skip digits.length)

/-- What a directive says, and the cursor behind that. -/
def directiveValue (name : List Char) (c : Cursor) : Except Error (Token × Cursor) := do
  let c := c.skipWhile isBlank
  if name == "YAML".toList then
    let (major, c) ← versionNumber c
    if c.head? != some '.' then c.fail .badDirective
    let (minor, c) ← versionNumber c.next
    return (.version major minor, c)
  else if name == "TAG".toList then
    let (handle, c) ← handleText c
    if !isHandle handle && handle != ['!'] then c.fail .badDirective
    if !c.head?.any isBlank then c.fail .badDirective
    let (start, c) ← tagRest true [] (c.skipWhile isBlank)
    if !c.atGap then c.fail .badDirective
    return (.tagHandle (String.ofList handle) start, c)
  else c.fail .unknownDirective

/-- A directive, and the cursor behind its line. -/
def directive (c : Cursor) : Except Error (Token × Cursor) := do
  let name := c.next.run isName
  let after := c.next.skip name.length
  if name.isEmpty || !after.atGap then after.fail .badDirective
  let (token, after) ← directiveValue name after
  return (token, ← after.skipComment)

end Yaml
end AgentTool
