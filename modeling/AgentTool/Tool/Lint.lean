import AgentTool.Tool.Basic

/-!
# Warnings about a tool

A tool may pass every check and still hold what can hardly be meant:

* a template that refers to an argument which is no parameter of the tool;
* a listed value of a parameter that no rule on this parameter matches, when
  there is no webhook to fall through to;
* a rule on a parameter that matches none of the listed values.
-/

namespace AgentTool

/-- A warning about a tool. -/
inductive Warning where
  | undeclared (parameter : String)
  | unmatchedValue (parameter value : String)
  | unreachableRule (parameter pattern : String)
  deriving DecidableEq, Repr

/-- The text of a warning. -/
def Warning.message : Warning → String
  | undeclared _ => "template references an undeclared parameter"
  | unmatchedValue _ _ => "enum value matches no expression rule"
  | unreachableRule _ _ => "expression rule matches no published enum value"

namespace Lint

mutual

/-- The texts within a value, in order. -/
def texts : Json → List String
  | .str s => [s]
  | .arr items => itemTexts items
  | .obj entries => entryTexts entries
  | _ => []

/-- The texts within the items of an array. -/
def itemTexts : List Json → List String
  | [] => []
  | v :: vs => texts v ++ itemTexts vs

/-- The texts within the values of entries. -/
def entryTexts : List (String × Json) → List String
  | [] => []
  | (_, v) :: es => texts v ++ entryTexts es

end

/-- The argument that a path leads to. -/
def argument? (path : String) : Option String :=
  match Path.parse? path with
  | some (.key scope :: .key arg :: _) => if scope = Scopes.argsName then some arg else none
  | _ => none

/-- The arguments that the templates of a data map refer to. -/
def arguments (d : DataMap) : List String :=
  ((texts d.toJson).flatMap Template.references).filterMap argument?

/-- References to arguments that are no parameters, each argument once. -/
def undeclared (d : DataMap) (declared : List String) : List Warning :=
  (((arguments d).filter fun a => !declared.contains a).eraseDups).map .undeclared

/-- The rules whose subject is the parameter alone. -/
def rulesOn (parameter : String) (rules : Matcher) : Matcher :=
  let subject := "$\x7bargs." ++ parameter ++ "\x7d"
  rules.filter fun r => Text.trimString r.rule.subject == subject

/-- The warnings about a parameter and its listed values. -/
def coverageOf (rules : Matcher) (noWebhooks : Bool) (p : Parameter) : List Warning :=
  match p.choices, rulesOn p.name rules with
  | none, _ | _, [] => []
  | some values, related =>
    let shown := values.filterMap Json.display?
    let unmatched := shown.filter fun text => !related.any fun r => r.matches? text
    let unreachable := related.filter fun r => !shown.any fun text => r.matches? text
    (if noWebhooks then unmatched.map (.unmatchedValue p.name) else []) ++
      unreachable.map fun r => .unreachableRule p.name r.rule.pattern

/-- The warnings about a data map. -/
def warnings (d : DataMap) (rules : Matcher) (parameters : List Parameter) : List Warning :=
  undeclared d (parameters.map (·.name)) ++
    parameters.flatMap (coverageOf rules d.webhooks.isEmpty)

end Lint

/-- The warnings about a tool. -/
def Tool.warnings (t : Tool) : List Warning :=
  match t.document.dataMap, t.map? with
  | some d, some m => Lint.warnings d m.matcher t.parameters
  | _, _ => []

end AgentTool
