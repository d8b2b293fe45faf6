import AgentTool.Url.Punycode
import AgentTool.Unicode.DomainMapping
import AgentTool.Unicode.Direction
import AgentTool.Unicode.Normal

/-!
# Names of domains

A name is prepared character by character and brought to normal form.  Each of
its labels is then checked, and written in ASCII: a label with other characters
becomes `xn--` and its Punycode.  Labels may be empty and of any length.

A label passes if it is in normal form, opens with no mark, holds only characters
that stay in preparation, and uses joiners and directions as its script does.  If
any label runs from right to left, every label must keep to one direction.
-/

namespace AgentTool
namespace Domain

/-- The characters that stay. -/
def valid : CharSet := Unicode.decodeRow Unicode.validRow

/-- The characters that are dropped. -/
def ignored : CharSet := Unicode.decodeRow Unicode.ignoredRow

/-- Runs of characters that become others. -/
def runs : List (List Nat) := Unicode.codeRows Unicode.mappedRuns

/-- Characters that become texts. -/
def texts : List (Nat × List Nat) :=
  (Unicode.words Unicode.mappedTexts).filterMap fun w =>
    match Text.breakAt '=' w with
    | (n, some cs) => some (Unicode.hexNumber n, (Text.fields ',' cs).map Unicode.hexNumber)
    | (_, none) => none

/-- The image of a code point in a run. -/
def runImage? (n : Nat) (run : List Nat) : Option Nat :=
  match run with
  | start :: image :: rest =>
    let length := (rest[0]?).getD 1
    let stride := (rest[1]?).getD 1
    if start ≤ n ∧ n < start + length * stride ∧ (n - start) % stride = 0 then
      some (image + (n - start))
    else none
  | _ => none

/-- The text that a character becomes; nothing if it is not allowed. -/
def prepareChar? (c : Char) : Option (List Char) :=
  let n := c.toNat
  if n < 128 then some [c.toLower]
  else if valid.mem n then some [c]
  else if ignored.mem n then some []
  else match runs.findSome? (runImage? n) with
    | some m => some [Char.ofNat m]
    | none => (texts.find? fun t => t.1 == n).map fun t => t.2.map Char.ofNat

/-- The characters of a named row. -/
def rowOf (name : String) (rows : List (String × String)) : CharSet :=
  ((rows.find? fun r => r.1 == name).map fun r => Unicode.decodeRow r.2).getD []

/-- The bidirectional classes with their characters. -/
def directions : List (String × CharSet) :=
  Unicode.directionRows.map fun r => (r.1, Unicode.decodeRow r.2)

/-- The bidirectional class of a character. -/
def direction (c : Char) : String :=
  match directions.find? fun r => r.2.memChar c with
  | some r => r.1
  | none => "L"

/-- The characters that join to the right. -/
def joinsRight : CharSet :=
  rowOf "L" Unicode.joiningRows ++ rowOf "D" Unicode.joiningRows

/-- The characters that join to the left. -/
def joinsLeft : CharSet :=
  rowOf "R" Unicode.joiningRows ++ rowOf "D" Unicode.joiningRows

/-- The characters that joining looks through. -/
def transparent : CharSet := rowOf "T" Unicode.joiningRows

/-- Whether the first character that is not transparent is in a set. -/
def firstSolidIn (s : CharSet) (cs : List Char) : Bool :=
  match cs.dropWhile transparent.memChar with
  | c :: _ => s.memChar c
  | [] => false

/-- The combining class of a virama. -/
def viramaOrder : Nat := 9

/-- Whether each joiner stands where it has an effect; `before` is what precedes, in reverse. -/
def joinersFit (before : List Char) : List Char → Bool
  | [] => true
  | c :: cs =>
    let behindVirama := match before with
      | b :: _ => Unicode.order b.toNat == viramaOrder
      | [] => false
    let fits :=
      if c.toNat = 0x200C then
        behindVirama || (firstSolidIn joinsRight before && firstSolidIn joinsLeft cs)
      else if c.toNat = 0x200D then behindVirama
      else true
    fits && joinersFit (c :: before) cs

/-- The marks, which cannot open a label. -/
def marks : CharSet := Unicode.categories ["mc", "me", "mn"]

/-- A label that holds other characters than ASCII, in readable form. -/
def isReadable (label : List Char) : Bool :=
  Unicode.normalForm label == label &&
    !(label.head?.any marks.memChar) &&
    label.all (fun c => if c.toNat < 128 then !c.isUpper else valid.memChar c) &&
    joinersFit [] label

/-- The classes of a label that runs from right to left. -/
def runsLeft (classes : List String) : Bool :=
  classes.any fun d => ["R", "AL", "AN"].contains d

/-- Whether a label of a name with right-to-left labels keeps to one direction. -/
def keepsDirection (label : List Char) : Bool :=
  let classes := label.map direction
  let last := (classes.reverse.dropWhile (· == "NSM")).head?
  match classes.head? with
  | none => true
  | some first =>
    if ["R", "AL"].contains first then
      classes.all (fun d => ["R", "AL", "AN", "EN", "ES", "CS", "ET", "ON", "BN", "NSM"].contains d) &&
        last.any (fun d => ["R", "AL", "EN", "AN"].contains d) &&
        !(classes.contains "EN" && classes.contains "AN")
    else
      first == "L" &&
        classes.all (fun d => ["L", "EN", "ES", "CS", "ET", "ON", "BN", "NSM"].contains d) &&
        last.any (fun d => ["L", "EN"].contains d)

/-- A text of ASCII. -/
def isAscii (cs : List Char) : Bool := cs.all Punycode.isAscii

/-- The readable form of a prepared label. -/
def readLabel? (label : List Char) : Option (List Char) :=
  match Text.dropLead? ['x', 'n', '-', '-'] label with
  | some code => do
    let readable ← Punycode.decode? code
    if isAscii readable || !isReadable readable then none else return readable
  | none => if isAscii label || isReadable label then some label else none

/-- A label in ASCII. -/
def writeLabel (label : List Char) : List Char :=
  if isAscii label then label else ['x', 'n', '-', '-'] ++ Punycode.encode label

/-- A name as its labels are read from it.  ASCII only loses its capitals: it is in normal form. -/
def prepare? (name : List Char) : Option (List Char) :=
  if isAscii name then some (name.map Char.toLower)
  else (name.mapM prepareChar?).map fun prepared => Unicode.normalForm prepared.flatten

/-- Whether a label runs from right to left, as no label of ASCII does. -/
def isLeftward (label : List Char) : Bool := !isAscii label && runsLeft (label.map direction)

/-- A name in ASCII. -/
def toAscii? (name : List Char) : Option (List Char) := do
  let prepared ← prepare? name
  let labels ← (Text.fields '.' prepared).mapM readLabel?
  if labels.any isLeftward && !labels.all keepsDirection then none
  else return ((labels.map writeLabel).intersperse ['.']).flatten

end Domain
end AgentTool
