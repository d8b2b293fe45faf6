import AgentTool.Url.Basic

/-!
# Reading web addresses

Blanks at both ends and line ends anywhere do not count.  A backslash is a slash,
any number of slashes may follow the scheme, and what a part cannot hold is
percent encoded.  Segments of one or two dots, also when the dots are encoded,
are resolved.

| part | encoded beyond control characters and what is not ASCII |
| --- | --- |
| fragment | space `"` `<` `>` and the back quote |
| path | those, and `#` `?` and braces |
| user | those, and `/` `:` `;` `=` `@` `[` `\` `]` `^` and the vertical bar |
| query | space `"` `#` `<` `>` `'` |
-/

namespace AgentTool
namespace Url

/-- Whether a byte is one of some ASCII characters. -/
def isOneOf (cs : List Char) (b : UInt8) : Bool := cs.contains (Char.ofNat b.toNat)

/-- Bytes that are encoded everywhere. -/
def isForeign (b : UInt8) : Bool := b < 32 || b ≥ 127

/-- Bytes that are encoded in a fragment. -/
def inFragmentSet (b : UInt8) : Bool := isForeign b || isOneOf [' ', '"', '<', '>', '\x60'] b

/-- Bytes that are encoded in a path. -/
def inPathSet (b : UInt8) : Bool := inFragmentSet b || isOneOf ['#', '?', '{', '}'] b

/-- Bytes that are encoded in a user. -/
def inUserSet (b : UInt8) : Bool :=
  inPathSet b || isOneOf ['/', ':', ';', '=', '@', '[', '\\', ']', '^', '|'] b

/-- Bytes that are encoded in a query. -/
def inQuerySet (b : UInt8) : Bool := isForeign b || isOneOf [' ', '"', '#', '<', '>', '\''] b

/-- A text with the bytes of a set encoded. -/
def encodeIn (set : UInt8 → Bool) (cs : List Char) : List Char :=
  (Text.utf8 cs).flatMap fun b => if set b then Text.percentByte b else [Char.ofNat b.toNat]

/-- The bytes of a text with its percent encodings decoded. -/
def percentDecoded : List UInt8 → List UInt8
  | [] => []
  | b :: h :: l :: rest =>
    let high := Char.ofNat h.toNat
    let low := Char.ofNat l.toNat
    if b == 37 && Address.isHex high && Address.isHex low then
      UInt8.ofNat (Address.number 16 [high, low]) :: percentDecoded rest
    else b :: percentDecoded (h :: l :: rest)
  | b :: rest => b :: percentDecoded rest

/-- Characters that no domain holds. -/
def isForbiddenInDomain (c : Char) : Bool :=
  c.toNat ≤ 32 || c.toNat == 127 ||
    ['#', '%', '/', ':', '<', '>', '?', '@', '[', '\\', ']', '^', '|'].contains c

/-- A host. -/
def readHost? (cs : List Char) : Option Host :=
  match cs with
  | '[' :: inner =>
    if inner.getLast? = some ']' then (Address.readV6? inner.dropLast).map .v6 else none
  | cs => do
    let name ← Text.ofUtf8? (percentDecoded (Text.utf8 cs))
    let ascii ← Domain.toAscii? name
    if ascii.isEmpty || ascii.any isForbiddenInDomain then none
    else if Address.endsInNumber ascii then (Address.readV4? ascii).map .v4
    else return .domain (String.ofList ascii)

/-- The characters that end the part before the path. -/
def endsAuthority (c : Char) : Bool := c == '/' || c == '\\' || c == '?' || c == '#'

/-- The length of a host: a colon ends it outside brackets. -/
def hostLength (bracketed : Bool) : List Char → Nat
  | [] => 0
  | c :: cs =>
    if c == ':' && !bracketed then 0
    else hostLength (if c == '[' then true else if c == ']' then false else bracketed) cs + 1

/-- The port number behind a colon; nothing stands for the usual one. -/
def readPortNumber? (usual : Nat) (cs : List Char) : Option (Option Nat) :=
  if !cs.all Char.isDigit then none
  else
    let n := Address.number 10 cs
    if 65535 < n then none
    else if cs.isEmpty || n = usual then some none
    else some (some n)

/-- The text before the last `sep`, if there is one, and the text after it. -/
def splitAtLast (sep : Char) (cs : List Char) : Option (List Char) × List Char :=
  let tail := (cs.reverse.takeWhile (· != sep)).reverse
  if tail.length = cs.length then (none, cs)
  else (some (cs.take (cs.length - tail.length - 1)), tail)

/-- The user and the password of the text before an at sign. -/
def readUser (cs : List Char) : String × String :=
  let (name, password) := Text.breakAt ':' cs
  (String.ofList (encodeIn inUserSet name), String.ofList (encodeIn inUserSet (password.getD [])))

/-- Segments of one dot. -/
def isDot (segment : List Char) : Bool :=
  ["." , "%2e"].contains (Text.lowerAscii (String.ofList segment))

/-- Segments of two dots. -/
def isDoubleDot (segment : List Char) : Bool :=
  ["..", ".%2e", "%2e.", "%2e%2e"].contains (Text.lowerAscii (String.ofList segment))

/-- A letter and a colon or bar: two dots do not remove such a segment. -/
def isDrive : List Char → Bool
  | [c, d] => c.isAlpha && (d == ':' || d == '|')
  | _ => false

/-- The segments before, nearest first, without the nearest. -/
def dropSegment : List (List Char) → List (List Char)
  | [] => []
  | s :: ss => if isDrive s then s :: ss else ss

/-- The segments of a path, of which `before` are the resolved ones, nearest first. -/
def resolveSegments (before : List (List Char)) : List (List Char) → List (List Char)
  | [] => before.reverse
  | [s] =>
    if isDoubleDot s then (dropSegment before).reverse ++ [[]]
    else if isDot s then before.reverse ++ [[]]
    else before.reverse ++ [s]
  | s :: ss =>
    if isDoubleDot s then resolveSegments (dropSegment before) ss
    else if isDot s then resolveSegments before ss
    else resolveSegments (s :: before) ss

/-- A path, which may lack its first slash. -/
def readPath (cs : List Char) : String :=
  let cs := cs.map fun c => if c == '\\' then '/' else c
  let cs := match cs with
    | '/' :: rest => rest
    | cs => cs
  let segments := (Text.fields '/' cs).map (encodeIn inPathSet)
  String.ofList ((resolveSegments [] segments).flatMap fun s => '/' :: s)

/-- Drops the characters that do not count: control characters and blanks of ASCII at
both ends, tabs and line ends anywhere. -/
def clean (cs : List Char) : List Char :=
  let outer (c : Char) : Bool := c.toNat ≤ 32
  let cs := ((cs.dropWhile outer).reverse.dropWhile outer).reverse
  cs.filter fun c => c != '\t' && c != '\n' && c != '\r'

/-- Whether the scheme is secure, if it is a scheme of the web. -/
def readScheme? (cs : List Char) : Option Bool :=
  match Text.lowerAscii (String.ofList cs) with
  | "http" => some false
  | "https" => some true
  | _ => none

/-- The authority, and what an at sign separates from the host. -/
def readAuthority? (secure : Bool) (cs : List Char) : Option Url := do
  let (user, rest) := splitAtLast '@' cs
  let n := hostLength false rest
  let host ← readHost? (rest.take n)
  let portNumber ← readPortNumber? (if secure then 443 else 80) (rest.drop (n + 1))
  let (username, password) := readUser (user.getD [])
  return { secure, username, password, host, portNumber }

/-- Reads an absolute address of the web. -/
def parse? (text : String) : Option Url := do
  let (scheme, rest) := Text.breakAt ':' (clean text.toList)
  let secure ← readScheme? scheme
  let rest := (← rest).dropWhile fun c => c == '/' || c == '\\'
  let url ← readAuthority? secure (rest.takeWhile (!endsAuthority ·))
  let rest := rest.dropWhile (!endsAuthority ·)
  let (front, fragment) := Text.breakAt '#' rest
  let (path, query) := Text.breakAt '?' front
  return { url with
    path := readPath path
    query := query.map fun q => String.ofList (encodeIn inQuerySet q)
    fragment := fragment.map fun f => String.ofList (encodeIn inFragmentSet f) }

end Url
end AgentTool
