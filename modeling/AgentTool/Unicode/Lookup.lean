import AgentTool.Text.Blank
import AgentTool.Text.Split
import AgentTool.Unicode.CharSet
import AgentTool.Unicode.Category
import AgentTool.Unicode.Age
import AgentTool.Unicode.Break
import AgentTool.Unicode.Script
import AgentTool.Unicode.ScriptExtension
import AgentTool.Unicode.Property
import AgentTool.Unicode.CaseFold

/-!
# Unicode classes by name

Names of categories, scripts and properties are compared without case, blanks,
`-` and `_`, and without a leading `is`.
-/

namespace AgentTool
namespace Unicode

/-- The value of hexadecimal digits in lower case. -/
def hexNumber (cs : List Char) : Nat :=
  cs.foldl (fun n c => 16 * n + (if c.isDigit then c.toNat - 48 else c.toNat - 87)) 0

/-- The ranges of alternating `skip` and `take` numbers behind `pos`. -/
def rangesFrom (pos : Nat) : List Nat → CharSet
  | skip :: take :: rest =>
    (pos + skip, pos + skip + take) :: rangesFrom (pos + skip + take + 1) rest
  | _ => []

/-- The stretches of a text between blanks and line ends. -/
def words (s : String) : List (List Char) :=
  ((Text.fields '\n' s.toList).flatMap (Text.fields ' ')).filter fun w => !w.isEmpty

/-- The set that the data of a row stands for. -/
def decodeRow (s : String) : CharSet := rangesFrom 0 ((words s).map hexNumber)

/-- The set of the row that goes by the name. -/
def find? (name : String) : List (List String × String) → Option CharSet
  | [] => none
  | (names, row) :: rest => if names.contains name then some (decodeRow row) else find? name rest

/-- The union of the categories with the given short names. -/
def categories (names : List String) : CharSet :=
  CharSet.normalize (names.flatMap fun n => (find? n categoryRows).getD [])

/-- All assigned code points, as far as a text can hold them. -/
def assigned : CharSet := CharSet.normalize (categoryRows.flatMap fun r => decodeRow r.2)

/-- The set of unassigned code points; surrogates are neither assigned nor unassigned. -/
def unassigned : CharSet :=
  CharSet.complement (CharSet.union assigned [(0xD800, 0xDFFF)])

/-- The set of a general category or of a group of categories. -/
def category? (name : String) : Option CharSet :=
  match name with
  | "any" => some CharSet.all
  | "ascii" => some [(0, 127)]
  | "assigned" => some assigned
  | "cn" | "unassigned" => some unassigned
  | "c" | "other" => some (CharSet.union unassigned (categories ["cc", "cf", "co"]))
  | "l" | "letter" => some (categories ["ll", "lm", "lo", "lt", "lu"])
  | "lc" | "casedletter" => some (categories ["ll", "lt", "lu"])
  | "m" | "mark" | "combiningmark" => some (categories ["mc", "me", "mn"])
  | "n" | "number" => some (categories ["nd", "nl", "no"])
  | "p" | "punctuation" | "punct" =>
    some (categories ["pc", "pd", "pe", "pf", "pi", "po", "ps"])
  | "s" | "symbol" => some (categories ["sc", "sk", "sm", "so"])
  | "z" | "separator" => some (categories ["zl", "zp", "zs"])
  | _ => find? name categoryRows

/-- A name without a leading `is`, and whether it has one. -/
def withoutIs : List Char → List Char × Bool
  | a :: b :: rest =>
    if a.toLower = 'i' ∧ b.toLower = 's' then (rest, true) else (a :: b :: rest, false)
  | cs => (cs, false)

/-- A name in the form in which names are compared. -/
def normalName (s : String) : String :=
  let (cs, led) := withoutIs s.toList
  let cs := (cs.filter fun c => c.toNat < 128 && c != ' ' && c != '-' && c != '_').map Char.toLower
  if led ∧ cs = ['c'] then "isc" else String.ofList cs

/-- The class of a lone name: a property, a category or a script. -/
def named? (s : String) : Option CharSet :=
  let name := normalName s
  let property := if name = "cf" ∨ name = "sc" ∨ name = "lc" then none else find? name propertyRows
  property <|> category? name <|> find? name scriptRows

/-- The code points that were assigned when a version came out, from rows of versions. -/
def assignedBy? (version : String) : List (List String × String) → Option CharSet
  | [] => none
  | (names, row) :: rest =>
    if names.contains version then some (decodeRow row)
    else (assignedBy? version rest).map (decodeRow row ++ ·)

/-- The class of a property and a value. -/
def valued? (property value : String) : Option CharSet :=
  let value := normalName value
  match normalName property with
  | "gc" | "generalcategory" => category? value
  | "sc" | "script" => find? value scriptRows
  | "scx" | "scriptextensions" => find? value scriptExtensionRows <|> find? value scriptRows
  | "age" => (assignedBy? value ageRows).map CharSet.normalize
  | "gcb" | "graphemeclusterbreak" => find? value graphemeRows
  | "wb" | "wordbreak" => find? value wordRows
  | "sb" | "sentencebreak" => find? value sentenceRows
  | _ => none

/-- Decimal digits. -/
def digits : CharSet := categories ["nd"]

/-- Blanks. -/
def blanks : CharSet := Text.blankRanges

/-- The letters of the property Alphabetic. -/
def alphabetic : CharSet := (find? "alphabetic" propertyRows).getD []

/-- The characters of words: letters, marks, digits, connectors and joiners. -/
def wordChars : CharSet :=
  CharSet.normalize (alphabetic ++ categories ["mc", "me", "mn", "nd", "pc"] ++
    (find? "joincontrol" propertyRows).getD [])

/-- A letter, or a number of any kind. -/
def isAlphanumeric (c : Char) : Bool :=
  alphabetic.memChar c || (categories ["nd", "nl", "no"]).memChar c

/-- The sets of characters that differ in case only. -/
def foldSets : List (List Nat) :=
  (words foldRows).map fun w => (Text.fields ',' w).map hexNumber

/-- A set with every character that differs in case only from a member. -/
def foldClosure (s : CharSet) : CharSet :=
  CharSet.normalize (s ++ foldSets.flatMap fun f =>
    if f.any s.mem then f.map fun n => (n, n) else [])

end Unicode
end AgentTool
