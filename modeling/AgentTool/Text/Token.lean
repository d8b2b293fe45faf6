/-!
# Tokens

The names of header fields and of methods: one or more ASCII letters, digits and
the marks of which the protocol makes no other use.  The names of fields are of
bounded length.
-/

namespace AgentTool
namespace Text

/-- A character of a token. -/
def isTokenChar (c : Char) : Bool :=
  c.isAlphanum || "!#$%&'*+-.^_|~".toList.contains c || c == '\x60'

/-- A token. -/
def isToken (s : String) : Bool := !s.isEmpty && s.toList.all isTokenChar

/-- The longest name of a header field, in bytes. -/
def fieldNameLimit : Nat := 65535

/-- The name of a header field. -/
def isFieldName (s : String) : Bool := isToken s && s.utf8ByteSize ≤ fieldNameLimit

end Text
end AgentTool
