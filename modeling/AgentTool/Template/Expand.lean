import AgentTool.Template.Basic
import AgentTool.Scopes

/-!
# Expanding templates

`expand` replaces every marker by the text of the value that its path names, or
by its default, or by nothing, and never fails: a marker that no strict reading
accepts is treated leniently.  What is put in is never scanned again.

`expandUrl` also encodes what is put into an address:

| marker stands | encoding |
| --- | --- |
| after a `?` or `#` of the template's text | form field |
| first in the template, or within the authority after `://` | verbatim |
| elsewhere | one path segment |

A substitution that would make a whole path segment of dots is refused.

Whatever is done with the templates of a tool goes by a `Reading`, which is the
standard one where no other is named.
-/

namespace AgentTool
namespace Template

/-- The default of a marker, read leniently: a malformed one stands for its own text. -/
def lenientDefault (raw : List Char) : String :=
  match parseDefault raw with
  | .ok value => value
  | .error _ => String.ofList (Text.trim raw)

/-- The text that the body of a marker expands to. -/
def markerText (scopes : Scopes) (body : List Char) : Option String :=
  let (left, default?) := splitDefault none body
  let value := (Path.parse? (String.ofList (Text.trim left))).bind scopes.display?
  match value, default? with
  | some text, _ => some text
  | none, some raw => some (lenientDefault raw)
  | none, none => none

/-- The text of a token. -/
def tokenText (scopes : Scopes) : Token → String
  | .text cs => String.ofList cs
  | .unterminated rest _ => String.ofList rest
  | .marker body _ => (markerText scopes body).getD ""

/-- The template with every marker replaced. -/
def expand (template : String) (scopes : Scopes) : String :=
  String.join ((scan template).map (tokenText scopes))

/-- How a substitution in an address is encoded. -/
inductive Encoding where
  | verbatim
  | pathSegment
  | query
  deriving DecidableEq, Repr

/-- The encoding of a marker at an offset behind the literal text `literal`. -/
def Encoding.forUrl (literal : List Char) (offset : Nat) : Encoding :=
  if literal.any fun c => c == '?' || c == '#' then .query
  else if offset = 0 then .verbatim
  else match Text.breakOn? [':', '/', '/'] literal with
    | some (_, authority) => if authority.contains '/' then .pathSegment else .verbatim
    | none => .pathSegment

/-- A substitution that would make a path segment of dots, at a byte offset. -/
structure DotSegment where
  offset : Nat
  deriving DecidableEq, Repr

/-- The text of a refusal. -/
def DotSegment.message (d : DotSegment) : String :=
  s!"substitution at byte {d.offset} expands to a dot path segment"

/-- A text of dots alone. -/
def isDots (cs : List Char) : Bool := !cs.isEmpty && cs.all (· == '.')

/-- The encoded text; nothing for a path segment of dots. -/
def Encoding.encode? (e : Encoding) (cs : List Char) : Option (List Char) :=
  match e with
  | .verbatim => some cs
  | .pathSegment => if isDots cs then none else some (Text.encodeSegment cs)
  | .query => some (Text.encodeForm cs)

/-- The address that tokens expand to behind the literal text `literal`. -/
def expandUrlTokens (scopes : Scopes) (literal : List Char) :
    List Token → Except DotSegment (List Char)
  | [] => .ok []
  | .text cs :: ts => (expandUrlTokens scopes (literal ++ cs) ts).map (cs ++ ·)
  | .unterminated rest _ :: ts => (expandUrlTokens scopes literal ts).map (rest ++ ·)
  | .marker body offset :: ts =>
    match markerText scopes body with
    | none => expandUrlTokens scopes literal ts
    | some text =>
      match (Encoding.forUrl literal offset).encode? text.toList with
      | none => .error ⟨offset⟩
      | some encoded => (expandUrlTokens scopes literal ts).map (encoded ++ ·)

/-- The address of a template with every marker replaced and encoded. -/
def expandUrl (template : String) (scopes : Scopes) : Except DotSegment String :=
  (expandUrlTokens scopes [] (scan template)).map String.ofList

/-- Expands every string within a value; keys stay as they are. -/
def expandValue (scopes : Scopes) (v : Json) : Json := v.mapTexts fun s => expand s scopes

end Template

/-- A way to read templates: as texts and as addresses. -/
structure Reading where
  text : String → Scopes → String
  address : String → Scopes → Option String

namespace Reading

/-- The standard reading expands templates. -/
def standard : Reading where
  text := Template.expand
  address template scopes := (Template.expandUrl template scopes).toOption

/-- The standard reading of a template is its expansion. -/
@[simp] theorem standard_text : standard.text = Template.expand := rfl

/-- The standard reading of an address is its expansion, if it is not refused. -/
@[simp] theorem standard_address (template : String) (scopes : Scopes) :
    standard.address template scopes = (Template.expandUrl template scopes).toOption := rfl

end Reading
end AgentTool
