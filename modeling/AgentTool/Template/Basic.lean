import AgentTool.Template.Token
import AgentTool.Path.Basic
import AgentTool.Json.Basic

/-!
# Templates

The body of a marker is a path and, after `||`, an optional default: a quoted
literal with backslash escapes, or bare text without its outer blanks.  `parse`
is strict and accepts a template only if every marker has this form.
-/

namespace AgentTool
namespace Template

/-- What is wrong with a default. -/
inductive DefaultFault where
  | nested
  | afterQuote (text : String)
  | unclosed (text : String)
  deriving DecidableEq, Repr

/-- The text of a fault. -/
def DefaultFault.message : DefaultFault → String
  | .nested => "nested references are not supported"
  | .afterQuote t => s!"unexpected text after closing quote in {t}"
  | .unclosed t => s!"missing closing quote in {t}"

/-- Why a text is not a template. -/
inductive Error where
  | unterminated (offset : Nat)
  | notAPath (text : String)
  | badDefault (fault : DefaultFault)
  deriving DecidableEq, Repr

/-- The text of an error. -/
def Error.message : Error → String
  | .unterminated n => s!"unterminated '$\x7b' starting at byte {n}"
  | .notAPath t => s!"'{t}' is not a plain variable path"
  | .badDefault f => s!"malformed default literal: {f.message}"

/-- A reference: the text of its path, the path, and its default. -/
structure Reference where
  text : String
  path : Path
  fallback : Option String
  deriving DecidableEq, Repr

/-- A piece of a template. -/
inductive Piece where
  | literal (text : String)
  | reference (r : Reference)
  deriving DecidableEq, Repr

/-- A cut after one more character of the path. -/
def extendCut (c : Char) (r : List Char × Option (List Char)) : List Char × Option (List Char) :=
  (c :: r.1, r.2)

/-- Cuts the body of a marker at the first `||` outside quotes; here a backslash
has no meaning.  `quote` is the quote that is open. -/
def splitDefault (quote : Option Char) : List Char → List Char × Option (List Char)
  | [] => ([], none)
  | c :: cs =>
    match quote with
    | some q => extendCut c (splitDefault (if c = q then none else some q) cs)
    | none =>
      if c = '"' ∨ c = '\'' then extendCut c (splitDefault (some c) cs)
      else if c = '|' ∧ cs.head? = some '|' then ([], some (cs.drop 1))
      else extendCut c (splitDefault none cs)

/-- The characters of a quoted literal up to its closing quote, and what follows. -/
def unquote (quote : Char) : List Char → Option (List Char × List Char)
  | [] => none
  | c :: cs =>
    if c = '\\' then
      match cs with
      | [] => none
      | d :: ds => (unquote quote ds).map fun p => (d :: p.1, p.2)
    else if c = quote then some ([], cs)
    else (unquote quote cs).map fun p => (c :: p.1, p.2)

/-- The value of a default. -/
def parseDefault (cs : List Char) : Except DefaultFault String :=
  let raw := Text.trim cs
  let bare : Except DefaultFault String :=
    if Text.contains ['$', '{'] raw then .error .nested else .ok (String.ofList raw)
  match raw with
  | q :: body =>
    if q = '"' ∨ q = '\'' then
      match unquote q body with
      | none => .error (.unclosed (String.ofList raw))
      | some (value, []) => .ok (String.ofList value)
      | some (_, _ :: _) => .error (.afterQuote (String.ofList raw))
    else bare
  | [] => bare

/-- The reference that the body of a marker stands for. -/
def parseMarker (body : List Char) : Except Error Reference :=
  let (left, default?) := splitDefault none body
  let text := String.ofList (Text.trim left)
  match Path.parse? text with
  | none => .error (.notAPath text)
  | some path =>
    match default? with
    | none => .ok ⟨text, path, none⟩
    | some raw =>
      match parseDefault raw with
      | .ok value => .ok ⟨text, path, some value⟩
      | .error f => .error (.badDefault f)

/-- The piece of a token. -/
def piece : Token → Except Error Piece
  | .text cs => .ok (.literal (String.ofList cs))
  | .marker body _ => (parseMarker body).map .reference
  | .unterminated _ offset => .error (.unterminated offset)

/-- The pieces of a template; the first token that has none decides the error. -/
def parse (template : String) : Except Error (List Piece) := (scan template).mapM piece

mutual

/-- Checks every string within a value; keys are not templates. -/
def checkValue : Json → Except Error Unit
  | .str s => (parse s).map fun _ => ()
  | .arr items => checkItems items
  | .obj entries => checkEntries entries
  | _ => .ok ()

/-- `checkValue` on the items of an array, in order. -/
def checkItems : List Json → Except Error Unit
  | [] => .ok ()
  | v :: vs => do
    checkValue v
    checkItems vs

/-- `checkValue` on the values of entries, in order. -/
def checkEntries : List (String × Json) → Except Error Unit
  | [] => .ok ()
  | (_, v) :: es => do
    checkValue v
    checkEntries es

end

/-- The reference of a token that is a well-formed marker. -/
def tokenReference? : Token → Option Reference
  | .marker body _ => (parseMarker body).toOption
  | _ => none

/-- The texts of the paths that a template refers to; malformed markers are left out. -/
def references (template : String) : List String :=
  (scan template).filterMap fun t => (tokenReference? t).map Reference.text

end Template
end AgentTool
