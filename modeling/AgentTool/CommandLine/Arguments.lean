/-!
# Words of a command line

A word that starts with two dashes is a flag, and the word after it is its value.

| asked | rule |
| --- | --- |
| `positionals` | the words that are left when each flag goes with the word after it |
| `flagValue?` | the word after the first that equals the flag |
-/

namespace AgentTool
namespace CommandLine

/-- Whether a word is a flag. -/
def isFlag (word : String) : Bool :=
  match word.toList with
  | '-' :: '-' :: _ => true
  | _ => false

/-- The words without flags and their values. -/
def positionals : List String → List String
  | [] => []
  | [word] => if isFlag word then [] else [word]
  | word :: next :: rest =>
    if isFlag word then positionals rest else word :: positionals (next :: rest)

/-- The value of a flag, if it has one. -/
def flagValue? (flag : String) : List String → Option String
  | [] => none
  | word :: rest => if word == flag then rest.head? else flagValue? flag rest

end CommandLine
end AgentTool
