import AgentTool.Request
import AgentTool.Retry
import AgentTool.Text.Base64

/-!
# Requests as they are sent

A request is written with the headers of its webhook and these, where the
webhook has none of the name:

| header | value |
| --- | --- |
| `accept` | `application/json` |
| `user-agent` | the setting |
| `content-type` | that of the body, if there is one |

A user and a password in the address become the header `authorization`.  Some
requests cannot be written: a header may hold a control character, and a host
may hold a character that has no place in a request line.
-/

namespace AgentTool

/-- A request as it is sent. -/
structure Sent where
  method : String
  url : String
  /-- names in lower case with their values, sorted -/
  headers : List (String × String)
  body : String
  deriving DecidableEq, Repr, Inhabited

namespace Sent

/-- A character that may stand in the value of a header. -/
def isHeaderChar (c : Char) : Bool := c == '\t' || 32 ≤ c.toNat && c.toNat != 127

/-- Whether a text may be the value of a header. -/
def isHeaderValue (s : String) : Bool := s.toList.all isHeaderChar

/-- Whether a host may stand in a request line. -/
def isWritableHost (h : Host) : Bool :=
  h.text.toList.all fun c => !(['"', '\x60', '\x7b', '\x7d'].contains c)

/-- The longest address of a request line. -/
def addressLimit : Nat := 65534

/-- The text of a body and its type. -/
def bodyText : Body → String × Option String
  | .empty => ("", none)
  | .json v => (v.compact, some "application/json")
  | .form pairs => (Text.formText pairs, some "application/x-www-form-urlencoded")

/-- A part of an address with its escapes resolved. -/
def plainPart? (s : String) : Option (List Char) :=
  Text.ofUtf8? (Url.percentDecoded (Text.utf8 s.toList))

/-- The address without user and password, and the header that they become. -/
def withoutUser (u : Url) : Url × List (String × String) :=
  if u.username.isEmpty && u.password.isEmpty then (u, [])
  else match plainPart? u.username with
    | none => (u, [])
    | some name =>
      let password := (plainPart? u.password).getD []
      let token := String.ofList (Text.base64 (Text.utf8 (name ++ ':' :: password)))
      ({ u with username := "", password := "" }, [("authorization", "Basic " ++ token)])

/-- The order of headers: by name, then by value. -/
def headerLe (a b : String × String) : Bool := a.1 < b.1 || a.1 == b.1 && decide (a.2 ≤ b.2)

/-- Why a header cannot be written, if it cannot. -/
def headerFault? (h : String × String) : Option AttemptError :=
  if !Text.isFieldName h.1 then some (.unwritable s!"header '{h.1}': invalid HTTP header name")
  else if !isHeaderValue h.2 then some (.unwritable s!"header '{h.1}': failed to parse header value")
  else none

/-- The request as it is sent, if it can be written. -/
def ofRequest (userAgent : String) (r : Request) : Except AttemptError Sent :=
  match r.headers.findSome? headerFault? with
  | some e => .error e
  | none =>
    let (url, user) := withoutUser r.url
    if !isWritableHost url.host || url.text.utf8ByteSize > addressLimit then
      .error (.unwritable "builder error: Parsed Url is not a valid Uri")
    else
      let (body, type) := bodyText r.body
      let own := user ++ r.headers.map fun h => (Text.lowerAscii h.1, h.2)
      let usual := [("accept", "application/json"), ("user-agent", userAgent)] ++
        (type.map fun t => ("content-type", t)).toList
      .ok {
        method := r.method
        url := url.textWithoutFragment
        headers := (own ++ usual.filter fun h => (Entries.get? h.1 own).isNone).mergeSort headerLe
        body }

end Sent
end AgentTool
