import AgentTool.Tool.Compile

/-!
# How the messages of the compiler start

A check names what it complains about, and names it first: a place in the document, or the part
of a tool.  So a message of the compiler never starts with a quote
(`Document.saysUnquoted_compile`), which tells it apart from the complaints about a draft.
-/

namespace AgentTool
namespace Check

/-- A text that starts with a character other than a quote. -/
def Unquoted (s : String) : Prop := s.toList.head?.any (· != '\'') = true

instance (s : String) : Decidable (Unquoted s) := inferInstanceAs (Decidable (_ = _))

variable {s t path : String} {α β : Type}

/-- What follows the start of a text does not matter. -/
@[grind ←] theorem unquoted_append (h : Unquoted s) : Unquoted (s ++ t) := by
  obtain ⟨c, hc, hq⟩ := (Option.any_eq_true _ _).1 h
  obtain ⟨cs, hs⟩ := List.head?_eq_some_iff.1 hc
  rw [Unquoted, String.toList_append, hs]
  exact hq

/-- A text says of itself how it starts. -/
@[grind =] theorem unquoted_toString : Unquoted (toString s) ↔ Unquoted s := Iff.rfl

/-- Whatever message a computation fails with, it does not start with a quote. -/
def SaysUnquoted (x : Except DefinitionError α) : Prop :=
  ∀ message, x = .error (.invalid message) → Unquoted message

/-- A check that passes says nothing. -/
theorem saysUnquoted_ok {a : α} : SaysUnquoted (.ok a) := nofun

/-- One check after another says what either of them says. -/
theorem SaysUnquoted.bind {x : Except DefinitionError α} {f : α → Except DefinitionError β}
    (hx : SaysUnquoted x) (hf : ∀ a, SaysUnquoted (f a)) : SaysUnquoted (x >>= f) := by
  cases x with
  | ok a => exact hf a
  | error e =>
    intro message h
    exact hx message (congrArg Except.error (Except.error.inj h))

/-- A complaint starts as its message does. -/
theorem saysUnquoted_invalid (h : Unquoted s) :
    SaysUnquoted (.error (.invalid s) : Except DefinitionError α) := by
  rintro message hm
  obtain rfl := DefinitionError.invalid.inj (Except.error.inj hm)
  exact h

/-- A complaint about a duplicate has no message of its own. -/
theorem saysUnquoted_duplicate {kind name : String} {hint : Option String} :
    SaysUnquoted (.error (.duplicate kind name hint) : Except DefinitionError α) := nofun

/-- A demand says the message that it is given. -/
theorem saysUnquoted_demand {holds : Bool} (h : Unquoted s) : SaysUnquoted (demand holds s) := by
  unfold demand ensure
  split
  · exact saysUnquoted_ok
  · exact saysUnquoted_invalid h

/-- What ensures that there is no duplicate has no message of its own. -/
theorem saysUnquoted_ensure {holds : Bool} {kind name : String} {hint : Option String} :
    SaysUnquoted (ensure holds (.duplicate kind name hint)) := by
  unfold ensure
  split
  · exact saysUnquoted_ok
  · exact saysUnquoted_duplicate

/-- A check of an optional value says what the check of the value says. -/
theorem saysUnquoted_ifAny {check : α → Result} (h : ∀ a, SaysUnquoted (check a))
    (o : Option α) : SaysUnquoted (ifAny check o) := by
  cases o with
  | none => exact saysUnquoted_ok
  | some a => exact h a

/-- A check of each item says what the checks of the items say. -/
theorem saysUnquoted_each {check : Nat → α → Result} (h : ∀ i a, SaysUnquoted (check i a))
    (as : List α) : SaysUnquoted (each check as) := by
  have hfrom (i : Nat) : SaysUnquoted (eachFrom check i as) := by
    induction as generalizing i with
    | nil => exact saysUnquoted_ok
    | cons a as ih => exact (h i a).bind fun _ => ih (i + 1)
  exact hfrom 0

/-! ## The checks -/

/-- The check of a template names the template first. -/
theorem saysUnquoted_template {text : String} : SaysUnquoted (template text path) := by
  unfold template
  split <;> nofun

/-- The check of the templates of a value names a template first. -/
theorem saysUnquoted_templates {v : Json} : SaysUnquoted (templates v path) := by
  unfold templates
  split <;> nofun

section AtPath

variable (hp : Unquoted path)
include hp

/-- The check of an address names its place first. -/
theorem saysUnquoted_address {url : String} : SaysUnquoted (address url path) := by
  refine (saysUnquoted_demand (by grind)).bind fun _ => ?_
  exact (saysUnquoted_demand (by grind)).bind fun _ => saysUnquoted_template

/-- The check of a path names its place first. -/
theorem saysUnquoted_valuePath {text : String} : SaysUnquoted (valuePath text path) := by
  unfold valuePath
  split
  · exact saysUnquoted_ok
  · exact saysUnquoted_invalid (by grind)

/-- The check of error keys names their place first. -/
theorem saysUnquoted_errorKeys {keys : List String} : SaysUnquoted (errorKeys keys path) :=
  saysUnquoted_each (fun _ _ => saysUnquoted_valuePath (by grind)) keys

/-- The check of an object of templates names its place first. -/
theorem saysUnquoted_templateObject {v : Json} : SaysUnquoted (templateObject v path) :=
  (saysUnquoted_demand (by grind)).bind fun _ => saysUnquoted_templates

/-- The check of an output names its place first. -/
theorem saysUnquoted_output {o : Output} : SaysUnquoted (output o path) :=
  saysUnquoted_template.bind fun _ =>
    saysUnquoted_each (fun _ _ => saysUnquoted_templateObject (by grind)) o.actions

/-- The check of a required output names its place first. -/
theorem saysUnquoted_outputRequired {o : Option Output} : SaysUnquoted (outputRequired o path) := by
  cases o with
  | some o => exact saysUnquoted_output hp
  | none => exact saysUnquoted_invalid (by grind)

/-- The check of a rule names its place first. -/
theorem saysUnquoted_rule {r : Rule} : SaysUnquoted (rule r path) := by
  refine (saysUnquoted_demand (by grind)).bind fun _ => ?_
  refine (saysUnquoted_demand (by grind)).bind fun _ => ?_
  refine saysUnquoted_template.bind fun _ => ?_
  refine (saysUnquoted_output (by grind)).bind fun _ => ?_
  exact saysUnquoted_ifAny (fun _ => saysUnquoted_output (by grind)) r.otherwise

/-- The check of a repetition names its place first. -/
theorem saysUnquoted_foreach {f : Foreach} : SaysUnquoted (foreach f path) := by
  refine (saysUnquoted_valuePath (by grind)).bind fun _ => ?_
  refine (saysUnquoted_demand (by grind)).bind fun _ => ?_
  refine (saysUnquoted_demand (by grind)).bind fun _ => ?_
  refine (saysUnquoted_demand (by grind)).bind fun _ => ?_
  exact (saysUnquoted_demand (by grind)).bind fun _ => saysUnquoted_template

/-- The check of headers names their place first. -/
theorem saysUnquoted_headers (es : Entries String) (seen : List String) :
    SaysUnquoted (headers path seen es) := by
  induction es generalizing seen with
  | nil => exact saysUnquoted_ok
  | cons e es ih =>
    refine (saysUnquoted_demand (by grind)).bind fun _ => ?_
    exact saysUnquoted_ensure.bind fun _ => saysUnquoted_template.bind fun _ => ih _

/-- The check of a webhook names its place first. -/
theorem saysUnquoted_webhook {w : Webhook} {declared : List String} :
    SaysUnquoted (webhook w path declared) := by
  refine (saysUnquoted_address (by grind)).bind fun _ => ?_
  refine (saysUnquoted_demand (by grind)).bind fun _ => ?_
  refine (saysUnquoted_headers hp w.headers []).bind fun _ => ?_
  refine (saysUnquoted_ifAny (fun _ => saysUnquoted_templateObject (by grind))
    w.params).bind fun _ => ?_
  refine (saysUnquoted_ifAny (fun _ => saysUnquoted_demand (by grind))
    w.formParam).bind fun _ => ?_
  refine (saysUnquoted_each (fun _ _ => saysUnquoted_demand (by grind))
    w.requireArgs).bind fun _ => ?_
  refine (saysUnquoted_ifAny (fun _ => saysUnquoted_foreach (by grind))
    w.foreach).bind fun _ => ?_
  refine (saysUnquoted_outputRequired (by grind)).bind fun _ => ?_
  exact saysUnquoted_errorKeys (by grind)

/-- The check of choices names their place first. -/
theorem saysUnquoted_choices {p : Property} (vs before : List Json) (i : Nat) :
    SaysUnquoted (choices p path before i vs) := by
  induction vs generalizing before i with
  | nil => exact saysUnquoted_ok
  | cons v vs ih =>
    have he : Unquoted s!"{path}.enum[{i}] (" := by grind
    refine (saysUnquoted_demand (by grind)).bind fun _ => ?_
    exact saysUnquoted_ensure.bind fun _ => ih _ _

end AtPath

/-- The check of a property names the parameter first. -/
theorem saysUnquoted_property {name : String} {p : Property} : SaysUnquoted (property name p) := by
  have hp : Unquoted s!"parameters.properties.{name}" := unquoted_append (by decide)
  have hn : Unquoted "parameter name '" := by decide
  refine (saysUnquoted_demand (by grind)).bind fun _ => ?_
  refine (saysUnquoted_ifAny (fun values => ?_) p.choices).bind fun _ => ?_
  · refine (saysUnquoted_demand (by grind)).bind fun _ => ?_
    exact saysUnquoted_choices hp values [] 0
  · exact saysUnquoted_ifAny (fun _ => saysUnquoted_demand (by grind)) p.standard

/-- The check of required names names their place first. -/
theorem saysUnquoted_required {properties : Entries Property} (names seen : List String) (i : Nat) :
    SaysUnquoted (required properties seen i names) := by
  have hr : Unquoted "parameters.required[" := by decide
  induction names generalizing seen i with
  | nil => exact saysUnquoted_ok
  | cons name names ih =>
    exact (saysUnquoted_demand (by grind)).bind fun _ => saysUnquoted_ensure.bind fun _ => ih _ _

/-- The check of the parameters names a part of them first. -/
theorem saysUnquoted_parameters {tool : String} {p : Parameters} :
    SaysUnquoted (parameters tool p) := by
  have ht : Unquoted "parameters.type of tool '" := by decide
  refine (saysUnquoted_demand (by grind)).bind fun _ => ?_
  refine (saysUnquoted_ifAny (fun _ => saysUnquoted_duplicate) _).bind fun _ => ?_
  refine (saysUnquoted_required p.required [] 0).bind fun _ => ?_
  exact saysUnquoted_each (fun _ _ => saysUnquoted_property) p.properties

/-- The check of the name of a tool names the tool first. -/
theorem saysUnquoted_name {tool : String} : SaysUnquoted (name tool) := by
  have ht : Unquoted "tool name '" := by decide
  exact (saysUnquoted_demand (by decide)).bind fun _ => saysUnquoted_demand (by grind)

end Check

/-! ## The compiler -/

namespace Compile

open Check

/-- What makes a rule ready names the place of its pattern first. -/
theorem saysUnquoted_ofRule {r : Rule} {path : String} : SaysUnquoted (ReadyRule.ofRule r path) := by
  unfold ReadyRule.ofRule
  split <;> nofun

/-- What makes rules ready names the place of a pattern first. -/
theorem saysUnquoted_rules (rs : List Rule) (i : Nat) : SaysUnquoted (rules i rs) := by
  have hr : Unquoted "data_map.expressions[" := by decide
  induction rs generalizing i with
  | nil => exact saysUnquoted_ok
  | cons r rs ih =>
    refine (saysUnquoted_rule (by grind)).bind fun _ => ?_
    exact saysUnquoted_ofRule.bind fun _ => (ih (i + 1)).bind fun _ => saysUnquoted_ok

/-- What compiles a data map names a place in it first. -/
theorem saysUnquoted_dataMap {tool : String} {m : DataMap} {declared : List String} :
    SaysUnquoted (dataMap tool m declared) := by
  have ht : Unquoted "data_map of tool '" := by decide
  have hw : Unquoted "data_map.webhooks[" := by decide
  refine (saysUnquoted_demand (by grind)).bind fun _ => ?_
  refine (saysUnquoted_rules m.rules 0).bind fun _ => ?_
  refine (saysUnquoted_each (fun _ _ => saysUnquoted_webhook (by grind)) m.webhooks).bind
    fun _ => ?_
  refine (saysUnquoted_ifAny (fun _ => saysUnquoted_output (by decide)) m.fallback).bind fun _ => ?_
  exact (saysUnquoted_errorKeys (by decide)).bind fun _ => saysUnquoted_ok

/-- What compiles the runtime of a tool names a part of the document first. -/
theorem saysUnquoted_runtime {d : Document} : SaysUnquoted (runtime d) := by
  have ht : Unquoted "tool '" := by decide
  unfold runtime
  split
  · exact saysUnquoted_invalid (by grind)
  · exact saysUnquoted_invalid (by grind)
  · exact saysUnquoted_dataMap.bind fun _ => saysUnquoted_ok
  · exact (saysUnquoted_address (by decide)).bind fun _ => saysUnquoted_ok

end Compile

/-- **No message of the compiler starts with a quote.** -/
theorem Document.saysUnquoted_compile {d : Document} {instanceKey : Option String} :
    Check.SaysUnquoted (d.compile instanceKey) := by
  refine Check.saysUnquoted_name.bind fun _ => ?_
  refine Check.saysUnquoted_parameters.bind fun _ => ?_
  exact Compile.saysUnquoted_runtime.bind fun _ => Check.saysUnquoted_ok

end AgentTool
