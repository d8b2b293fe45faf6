import AgentTool.Url.Reader

/-!
# Addresses of proxies

A proxy is an address of the web, and the scheme may be left out: a text without
a scheme, or whose scheme leads to no host, is read as if `http://` stood before
it.
-/

namespace AgentTool
namespace Url

/-- Whether a text is the name of a scheme. -/
def isSchemeName : List Char → Bool
  | [] => false
  | c :: cs => c.isAlpha && cs.all fun c => c.isAlphanum || c == '+' || c == '-' || c == '.'

/-- Whether what follows the colon of a scheme leads to a host. -/
def leadsToHost (scheme : String) (rest : List Char) : Bool :=
  if ["ws", "wss", "ftp"].contains scheme then true
  else match rest with
    | '/' :: '/' :: more =>
      let authority := more.takeWhile (!endsAuthority ·)
      !authority.isEmpty && !(scheme == "file" && authority == "localhost".toList)
    | _ => false

/-- The proxy that a text names. -/
def proxy? (text : String) : Option Url :=
  let (scheme, rest) := Text.breakAt ':' (clean text.toList)
  match rest with
  | none => parse? ("http://" ++ text)
  | some rest =>
    if !isSchemeName scheme then parse? ("http://" ++ text)
    else if (readScheme? scheme).isSome then parse? text
    else if leadsToHost (Text.lowerAscii (String.ofList scheme)) rest then none
    else parse? ("http://" ++ text)

end Url
end AgentTool
