import AgentTool.Url.Address
import AgentTool.Url.Domain

/-!
# Addresses of web resources

An absolute address has the scheme `http` or `https`, an optional user, a host,
an optional port number, a path, and optionally a query and a fragment.  All parts are
kept as they are written, in ASCII.
-/

namespace AgentTool

/-- A host. -/
inductive Host where
  | domain (name : String)
  | v4 (n : Nat)
  | v6 (groups : List Nat)
  deriving DecidableEq, Repr, Inhabited

/-- The text of a host. -/
def Host.text : Host → String
  | domain name => name
  | v4 n => Address.textV4 n
  | v6 groups => "[" ++ Address.textV6 groups ++ "]"

/-- The address of a web resource. -/
structure Url where
  /-- whether the scheme is `https` -/
  secure : Bool
  username : String := ""
  password : String := ""
  host : Host
  /-- the port number, if it is not the usual one -/
  portNumber : Option Nat := none
  path : String := "/"
  query : Option String := none
  fragment : Option String := none
  deriving DecidableEq, Repr, Inhabited

namespace Url

/-- The name of the scheme. -/
def scheme (u : Url) : String := if u.secure then "https" else "http"

/-- The user and the password as they precede the host. -/
def userText (u : Url) : String :=
  if u.username.isEmpty && u.password.isEmpty then ""
  else u.username ++ (if u.password.isEmpty then "" else ":" ++ u.password) ++ "@"

/-- An optional part behind its mark. -/
def partText (mark : String) : Option String → String
  | some s => mark ++ s
  | none => ""

/-- The address without its fragment. -/
def textWithoutFragment (u : Url) : String :=
  u.scheme ++ "://" ++ u.userText ++ u.host.text ++ partText ":" (u.portNumber.map toString) ++ u.path ++
    partText "?" u.query

/-- The whole address. -/
def text (u : Url) : String := u.textWithoutFragment ++ partText "#" u.fragment

/-- Appends pairs to the query, which is then present even if there are none. -/
def appendPairs (u : Url) (pairs : List (String × String)) : Url :=
  let old := u.query.getD ""
  let new := Text.formText pairs
  { u with query := some (old ++ (if old.isEmpty || pairs.isEmpty then "" else "&") ++ new) }

end Url
end AgentTool
