import AgentTool.Duration
import AgentTool.Text.Number
import AgentTool.Text.Split

/-!
# Settings of an engine

Settings start from fixed values, which variables of the environment may change.
A variable that cannot be read changes nothing.

| variable | setting | fixed value |
| --- | --- | --- |
| `DATAMAP_HTTP_TIMEOUT_SECS` | `timeout`, at least a second | 30 s |
| `DATAMAP_MAX_RETRIES` | `retries`, at most `retryLimit` | 1 |
| `DATAMAP_RETRY_MIN_DELAY_MS` | `shortestDelay` | 200 ms |
| `DATAMAP_RETRY_MAX_DELAY_MS` | `longestDelay` | 2 s |
| `DATAMAP_TLS_VERIFY` | `verifyTls` | yes |
| `DATAMAP_PROXY_URL` | `proxy` | none |
| `DATAMAP_HTTP_POOL_MAX_IDLE_PER_HOST` | `idlePerHost` | 32 |
| `DATAMAP_INVOCATION_DEADLINE_MS` | `deadline`, at least a millisecond | none |
-/

namespace AgentTool

/-- The version of the library. -/
def version : String := "0.4.0"

/-- The settings of an engine. -/
structure Config where
  /-- the bound of one attempt -/
  timeout : Duration := .ofSeconds 30
  /-- the attempts after the first, for each webhook -/
  retries : Nat := 1
  shortestDelay : Duration := .ofMillis 200
  longestDelay : Duration := .ofSeconds 2
  /-- the status codes that are worth another attempt -/
  retryStatuses : List Nat := [429, 500, 502, 503, 504]
  verifyTls : Bool := true
  proxy : Option String := none
  idlePerHost : Nat := 32
  userAgent : String := "datamap-runtime/" ++ version
  /-- the bound of one invocation with all its attempts -/
  deadline : Option Duration := none
  /-- the answer when nothing else gives one -/
  failureText : String := "Sorry, I couldn't complete that request right now."
  deriving Inhabited

namespace Config

/-- The most attempts after the first. -/
def retryLimit : Nat := 3

/-- At most `retryLimit` attempts after the first. -/
def withRetries (c : Config) (n : Nat) : Config := { c with retries := min n retryLimit }

/-- Both delays; the longest is no shorter than the shortest. -/
def withDelays (c : Config) (shortest longest : Duration) : Config :=
  { c with shortestDelay := shortest, longestDelay := max longest shortest }

/-- Another answer; one that is blank is passed over. -/
def withFailureText (c : Config) (text : String) : Config :=
  if Text.isBlankString text then c else { c with failureText := text }

/-- A change of one setting. -/
inductive Step where
  | timeout (bound : Duration)
  | retries (n : Nat)
  | delays (shortest longest : Duration)
  | retryStatuses (codes : List Nat)
  | verifyTls (on : Bool)
  | proxy (url : String)
  | idlePerHost (n : Nat)
  | userAgent (text : String)
  | deadline (bound : Duration)
  | failureText (text : String)

/-- The settings after one change. -/
def apply (c : Config) : Step → Config
  | .timeout bound => { c with timeout := bound }
  | .retries n => c.withRetries n
  | .delays shortest longest => c.withDelays shortest longest
  | .retryStatuses codes => { c with retryStatuses := codes }
  | .verifyTls on => { c with verifyTls := on }
  | .proxy url => { c with proxy := some url }
  | .idlePerHost n => { c with idlePerHost := n }
  | .userAgent text => { c with userAgent := text }
  | .deadline bound => { c with deadline := some bound }
  | .failureText text => c.withFailureText text

/-- The variables that may change settings. -/
def variableNames : List String :=
  ["DATAMAP_HTTP_TIMEOUT_SECS", "DATAMAP_MAX_RETRIES", "DATAMAP_RETRY_MIN_DELAY_MS",
    "DATAMAP_RETRY_MAX_DELAY_MS", "DATAMAP_TLS_VERIFY", "DATAMAP_PROXY_URL",
    "DATAMAP_HTTP_POOL_MAX_IDLE_PER_HOST", "DATAMAP_INVOCATION_DEADLINE_MS"]

/-- Whether the text of a flag is not one of the words for no. -/
def isYes (text : String) : Bool :=
  !(["0", "false", "no", "off"].contains (Text.lowerAscii (Text.trimString text)))

/-- A setting changed by the value of a variable, if it has one that can be read. -/
def set {α : Type} (value : Option α) (change : Config → α → Config) (c : Config) : Config :=
  match value with
  | some a => change c a
  | none => c

/-- The settings that variables give. -/
def ofLookup (lookup : String → Option String) : Config :=
  let word (name : String) : Option Nat := (lookup name).bind (Text.natural? UInt64.size)
  let fixed : Config := {}
  fixed
    |> set (word "DATAMAP_HTTP_TIMEOUT_SECS") (fun c n => { c with timeout := .ofSeconds (max n 1) })
    |> set ((lookup "DATAMAP_MAX_RETRIES").bind (Text.natural? UInt32.size)) withRetries
    |> set (word "DATAMAP_RETRY_MIN_DELAY_MS") (fun c n => { c with shortestDelay := .ofMillis n })
    |> set (word "DATAMAP_RETRY_MAX_DELAY_MS") (fun c n => { c with longestDelay := .ofMillis n })
    |> set (lookup "DATAMAP_TLS_VERIFY") (fun c s => { c with verifyTls := isYes s })
    |> set ((lookup "DATAMAP_PROXY_URL").filter fun s => !Text.isBlankString s)
        (fun c s => { c with proxy := some s })
    |> set (word "DATAMAP_HTTP_POOL_MAX_IDLE_PER_HOST") (fun c n => { c with idlePerHost := n })
    |> set (word "DATAMAP_INVOCATION_DEADLINE_MS")
        (fun c n => { c with deadline := some (.ofMillis (max n 1)) })

end Config
end AgentTool
