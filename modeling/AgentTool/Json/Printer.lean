import AgentTool.Json.Basic
import AgentTool.Json.Token

/-!
# Writing JSON values

`compact` writes a value without blanks, in the order of its entries; it is the
concatenation of the texts of the value's tokens.  `pretty` writes the same
tokens with line breaks and two blanks per level.
-/

namespace AgentTool
namespace Json

mutual

/-- The tokens of a value. -/
def tokens : Json → List Token
  | .null => [.null]
  | .bool b => [.bool b]
  | .int n => [.int n]
  | .float x => [.float x]
  | .str s => [.str s]
  | .arr items => .openArr :: itemTokens items ++ [.closeArr]
  | .obj entries => .openObj :: entryTokens entries ++ [.closeObj]

/-- The tokens of the items of an array. -/
def itemTokens : List Json → List Token
  | [] => []
  | [v] => v.tokens
  | v :: vs => v.tokens ++ .comma :: itemTokens vs

/-- The tokens of the entries of an object. -/
def entryTokens : List (String × Json) → List Token
  | [] => []
  | [(k, v)] => .str k :: .colon :: v.tokens
  | (k, v) :: es => .str k :: .colon :: v.tokens ++ .comma :: entryTokens es

end

/-- The compact text of a value. -/
def compact (v : Json) : String := String.ofList (v.tokens.flatMap Token.text)

/-- A line break and the blanks of a level. -/
def newline (level : Nat) : String := "\n" ++ String.ofList (List.replicate (2 * level) ' ')

mutual

/-- The text of a value at a level of indentation. -/
def prettyAt (level : Nat) : Json → String
  | .arr [] => "[]"
  | .arr items => "[" ++ prettyItems (level + 1) items ++ newline level ++ "]"
  | .obj [] => "\x7b\x7d"
  | .obj entries => "\x7b" ++ prettyEntries (level + 1) entries ++ newline level ++ "\x7d"
  | v => v.compact

/-- The items of an array, each on a line of its own. -/
def prettyItems (level : Nat) : List Json → String
  | [] => ""
  | [v] => newline level ++ v.prettyAt level
  | v :: vs => newline level ++ v.prettyAt level ++ "," ++ prettyItems level vs

/-- The entries of an object, each on a line of its own. -/
def prettyEntries (level : Nat) : List (String × Json) → String
  | [] => ""
  | [(k, v)] => newline level ++ String.ofList (quoted k) ++ ": " ++ v.prettyAt level
  | (k, v) :: es =>
    newline level ++ String.ofList (quoted k) ++ ": " ++ v.prettyAt level ++ "," ++
      prettyEntries level es

end

/-- The text of a value over several lines. -/
def pretty (v : Json) : String := v.prettyAt 0

/-- The text that stands for a value inside other text; null has none. -/
def display? : Json → Option String
  | .null => none
  | .str s => some s
  | v => some v.compact

end Json
end AgentTool
