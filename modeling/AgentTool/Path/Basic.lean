import AgentTool.Text.Blank
import AgentTool.Text.Split

/-!
# Paths into values

A path is a name followed by keys and indices:

| step | written |
| --- | --- |
| key | `.key`, letters, digits, `_` and `-` of ASCII |
| index | `.12`, or `[12]` |

A dotted step of digits alone is an index, except at the start.  Nothing in a
path is ever evaluated: there are no operators, calls or signs.
-/

namespace AgentTool

/-- One step of a path. -/
inductive Path.Step where
  | key (name : String)
  | index (n : Nat)
  deriving DecidableEq, Repr

/-- A path: its steps from the outside in. -/
abbrev Path := List Path.Step

namespace Path

/-- Why a text is not a path. -/
inductive Error where
  | empty
  | emptySegment (path : String)
  | badCharacters (key : String)
  | indexRange (key : String)
  | noName (path : String)
  | unclosed (segment : String)
  | badIndex (text : String)
  | trailingText (segment : String)
  deriving DecidableEq, Repr

/-- The text of an error. -/
def Error.message : Error → String
  | .empty => "Invalid path: Empty path"
  | .emptySegment p => s!"Invalid path: Empty segment in '{p}'"
  | .badCharacters k => s!"Invalid path: Invalid characters in segment '{k}'"
  | .indexRange k => s!"Invalid path: Index out of range: {k}"
  | .noName p => s!"Invalid path: Path must start with a name: '{p}'"
  | .unclosed s => s!"Invalid path: Unclosed '[' in '{s}'"
  | .badIndex t => s!"Invalid path: Invalid index '{t}'"
  | .trailingText s => s!"Invalid path: Unexpected text after subscript in '{s}'"

/-- Letters, digits, `_` and `-` of ASCII. -/
def isKeyChar (c : Char) : Bool := c.isAlphanum || c == '_' || c == '-'

/-- The bound below which indices must stay. -/
def indexBound : Nat := UInt64.size

/-- The number that decimal digits stand for. -/
def decimalValue (cs : List Char) : Nat := cs.foldl (fun n c => 10 * n + (c.toNat - 48)) 0

/-- Digits as an index, if it stays below the bound. -/
def indexOfDigits? (cs : List Char) : Option Nat :=
  if cs ≠ [] ∧ cs.all Char.isDigit = true ∧ decimalValue cs < indexBound then
    some (decimalValue cs)
  else none

/-- The text of a subscript as an index: blanks around it and one leading `+` do not count. -/
def subscript? (cs : List Char) : Option Nat :=
  match Text.trim cs with
  | '+' :: ds => indexOfDigits? ds
  | ds => indexOfDigits? ds

/-- The indices of a run of subscripts `[n][m]…`; `segment` is quoted in errors. -/
def subscripts (segment : String) (cs : List Char) : Except Error (List Step) :=
  match cs with
  | [] => .ok []
  | '[' :: body =>
    match _h : Text.breakAt ']' body with
    | (_, none) => .error (.unclosed segment)
    | (text, some rest) =>
      match subscript? text with
      | none => .error (.badIndex (String.ofList text))
      | some n =>
        match subscripts segment rest with
        | .ok steps => .ok (.index n :: steps)
        | .error e => .error e
  | _ :: _ => .error (.trailingText segment)
termination_by cs.length
decreasing_by
  have : (Text.breakAt ']' body).2 = some rest := by rw [_h]
  have := Text.length_lt_of_breakAt this
  simp only [List.length_cons]
  omega

/-- The step of a key; digits alone are an index unless they open the path. -/
def keyStep (first : Bool) (key : List Char) : Except Error Step :=
  if !key.all isKeyChar then .error (.badCharacters (String.ofList key))
  else if !first && key.all Char.isDigit then
    match indexOfDigits? key with
    | some n => .ok (.index n)
    | none => .error (.indexRange (String.ofList key))
  else .ok (.key (String.ofList key))

/-- The steps of one dotted segment: a key, subscripts, or both. -/
def segment (path : String) (first : Bool) (cs : List Char) : Except Error (List Step) :=
  if cs.isEmpty then .error (.emptySegment path)
  else
    let key := cs.takeWhile (· != '[')
    let rest := cs.dropWhile (· != '[')
    if key.isEmpty then
      if first then .error (.noName path) else subscripts (String.ofList cs) rest
    else do
      let step ← keyStep first key
      let steps ← subscripts (String.ofList cs) rest
      return step :: steps

/-- The steps of the dotted segments, the first of which opens the path. -/
def segments (path : String) (first : Bool) : List (List Char) → Except Error Path
  | [] => .ok []
  | cs :: rest => do
    let steps ← segment path first cs
    let more ← segments path false rest
    return steps ++ more

/-- Reads a path; blanks around it do not count. -/
def parse (text : String) : Except Error Path :=
  let cs := Text.trim text.toList
  if cs.isEmpty then .error .empty
  else segments (String.ofList cs) true (Text.fields '.' cs)

/-- The path of a text, if it is one. -/
def parse? (text : String) : Option Path := (parse text).toOption

end Path
end AgentTool
