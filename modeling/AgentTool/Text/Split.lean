/-!
# Cutting text at a character

`fields sep cs` are the stretches of `cs` between the occurrences of `sep`:
always one more than there are occurrences, empty stretches included.
`breakAt sep cs` cuts at the first occurrence only.
-/

namespace AgentTool
namespace Text

/-- The stretches between the occurrences of `sep`. -/
def fields (sep : Char) : List Char → List (List Char)
  | [] => [[]]
  | c :: cs =>
    if c = sep then [] :: fields sep cs
    else match fields sep cs with
      | [] => [[c]]
      | f :: fs => (c :: f) :: fs

/-- The text before the first `sep` and, if there is one, the text after it. -/
def breakAt (sep : Char) : List Char → List Char × Option (List Char)
  | [] => ([], none)
  | c :: cs =>
    if c = sep then ([], some cs)
    else ((c :: (breakAt sep cs).1), (breakAt sep cs).2)

/-- What follows the first `sep` is shorter than the whole. -/
theorem length_lt_of_breakAt {sep : Char} {cs rest : List Char}
    (h : (breakAt sep cs).2 = some rest) : rest.length < cs.length := by
  induction cs with
  | nil => simp [breakAt] at h
  | cons c cs ih =>
    unfold breakAt at h
    split at h
    · simp only [Option.some.injEq] at h
      subst h
      simp
    · have := ih h
      simp only [List.length_cons]
      omega

/-- The texts with `sep` between each two neighbours. -/
def joinWith (sep : String) : List String → String
  | [] => ""
  | [s] => s
  | s :: ss => s ++ sep ++ joinWith sep ss

/-- `text` without the `lead` that it opens with, if it does. -/
def dropLead? : (lead text : List Char) → Option (List Char)
  | [], text => some text
  | _ :: _, [] => none
  | l :: ls, c :: cs => if l = c then dropLead? ls cs else none

/-- The text before the first occurrence of `mark` and the text after it. -/
def breakOn? (mark : List Char) : List Char → Option (List Char × List Char)
  | [] => if mark.isEmpty then some ([], []) else none
  | c :: cs =>
    match dropLead? mark (c :: cs) with
    | some rest => some ([], rest)
    | none => (breakOn? mark cs).map fun p => (c :: p.1, p.2)

/-- Whether `mark` occurs in the text. -/
def contains (mark text : List Char) : Bool := (breakOn? mark text).isSome

/-- The ASCII letters in upper case. -/
def upperAscii (s : String) : String := String.ofList (s.toList.map Char.toUpper)

/-- The ASCII letters in lower case. -/
def lowerAscii (s : String) : String := String.ofList (s.toList.map Char.toLower)

end Text
end AgentTool
