import AgentTool.Regex.Match
import AgentTool.Text.Split

/-!
# Patterns

A pattern is a regular expression, searched anywhere in its subject.  The slash
form `/body/flags` adds flags; it is recognised only if nothing but ASCII letters
follows the last slash.

| flag | effect |
| --- | --- |
| `i` | letters match in either case |
| `m` | `^` and `$` also match at line ends |
| `s` | `.` also matches a line end |
| `x` | blanks and comments in the pattern do not count |
-/

namespace AgentTool
namespace Pattern

/-- Why a pattern is refused. -/
inductive Error where
  | unsupportedFlag (flag : Char)
  | regex (cause : Regex.Error)
  deriving DecidableEq, Repr

/-- The text of an error. -/
def Error.message : Error → String
  | .unsupportedFlag c => s!"unsupported regex flag '{c}'"
  | .regex e => e.message

/-- The text up to the last `sep` and the text after it. -/
def breakAtLast? (sep : Char) (cs : List Char) : Option (List Char × List Char) :=
  match Text.breakAt sep cs.reverse with
  | (tail, some front) => some (front.reverse, tail.reverse)
  | (_, none) => none

/-- The body and the flags of a slash form. -/
def slashForm? : List Char → Option (List Char × List Char)
  | '/' :: inner =>
    match breakAtLast? '/' inner with
    | some (body, flags) => if flags.all Char.isAlpha then some (body, flags) else none
    | none => none
  | _ => none

/-- The flags of a slash form, and whether blanks do not count. -/
def readFlags (flags : Regex.Flags) (verbose : Bool) :
    List Char → Except Error (Regex.Flags × Bool)
  | [] => .ok (flags, verbose)
  | 'i' :: cs => readFlags { flags with caseInsensitive := true } verbose cs
  | 'm' :: cs => readFlags { flags with multiLine := true } verbose cs
  | 's' :: cs => readFlags { flags with dotAll := true } verbose cs
  | 'x' :: cs => readFlags flags true cs
  | c :: _ => .error (.unsupportedFlag c)

/-- Reads a pattern in either form. -/
def compile (pattern : String) : Except Error Regex := do
  let (body, flags) := (slashForm? pattern.toList).getD (pattern.toList, [])
  let (flags, verbose) ← readFlags {} false flags
  (Regex.compile flags verbose (String.ofList body)).mapError .regex

end Pattern
end AgentTool
