import AgentTool.Document.Basic
import AgentTool.Document.Error
import AgentTool.Pattern
import AgentTool.Template.Expand

/-!
# Matching rules

Rules are tried in their order of declaration; the first whose expanded subject
matches its pattern wins.  The first rule with an output for no match supplies
the default of all of them.
-/

namespace AgentTool

/-- A rule with its pattern ready to search. -/
structure ReadyRule where
  rule : Rule
  regex : Regex
  deriving Inhabited

namespace ReadyRule

/-- Makes a rule ready; `path` tells where its pattern stands. -/
def ofRule (rule : Rule) (path : String) : Except DefinitionError ReadyRule :=
  match Pattern.compile rule.pattern with
  | .ok regex => .ok ⟨rule, regex⟩
  | .error e => .error (.pattern path rule.pattern e.message)

/-- Whether the rule matches an expanded subject. -/
def matches? (r : ReadyRule) (subject : String) : Bool := r.regex.isMatch subject

/-- Whether the rule matches its own subject in the scopes. -/
def holds (scopes : Scopes) (r : ReadyRule) (R : Reading := .standard) : Bool :=
  r.matches? (R.text r.rule.subject scopes)

end ReadyRule

/-- Rules in order. -/
abbrev Matcher := List ReadyRule

namespace Matcher

/-- The position and value of the first item that passes a test. -/
def firstIndexed? {α : Type} (p : α → Bool) : List α → Option (Nat × α)
  | [] => none
  | a :: as => if p a then some (0, a) else (firstIndexed? p as).map fun r => (r.1 + 1, r.2)

/-- The first rule that matches, with its position. -/
def evaluate? (m : Matcher) (scopes : Scopes) (R : Reading := .standard) :
    Option (Nat × ReadyRule) :=
  firstIndexed? (fun r => r.holds scopes R) m

/-- The first rule that has an output for no match, with its position. -/
def default? (m : Matcher) : Option (Nat × ReadyRule) :=
  firstIndexed? (fun r => r.rule.otherwise.isSome) m

end Matcher
end AgentTool
