import AgentTool.Proofs.Answers
import AgentTool.Proofs.CompiledMaps
import AgentTool.Proofs.Invocations
import AgentTool.Proofs.ParameterReferences
import AgentTool.Tool.Lint
import Mathlib.Data.List.Nodup

/-!
# Coverage of listed values

The warnings about a listed parameter are found without running a rule: the rules on the parameter
are those whose subject, apart from blanks around it, is the reference to the parameter, and their
patterns are tried on the texts of the values.  A run expands the subject as it is written.

| warning | on the rules whose subject is the reference alone |
| --- | --- |
| no rule matches a value | is given if this value would be left to the fallback |
| a rule matches no value | is given if the rule never holds |

So the warnings say what a run does (`Document.coverage_predicts`), as long as no blanks stand
around the subjects and the name of the parameter leads behind a dot where it leads by itself.
-/

namespace AgentTool

/-- The rule is on the parameter: its subject is the reference to it, with blanks around or not. -/
def ReadyRule.IsOn (parameter : String) (r : ReadyRule) : Prop :=
  Text.trimString r.rule.subject = Template.argument parameter

namespace Lint

variable {rules : Matcher} {parameter text pattern : String} {p : Parameter} {noWebhooks : Bool}

/-- The rules on a parameter are those whose subject is the reference to it. -/
theorem mem_rulesOn {r : ReadyRule} : r ∈ rulesOn parameter rules ↔ r ∈ rules ∧ r.IsOn parameter := by
  rw [rulesOn, List.mem_filter, beq_iff_eq]
  rfl

/-- A text is left out if it is that of a listed value, and of the rules on the parameter, of which
there are some, none matches it. -/
structure Unmatched (rules : Matcher) (p : Parameter) (text : String) : Prop where
  listed : ∃ values, p.choices = some values ∧ ∃ v ∈ values, v.display? = some text
  related : ∃ r ∈ rules, r.IsOn p.name
  missed : ∀ r ∈ rules, r.IsOn p.name → r.matches? text = false

/-- A rule on the parameter is dead if it matches the text of no listed value. -/
structure Dead (rules : Matcher) (p : Parameter) (r : ReadyRule) : Prop where
  mem : r ∈ rules
  isOn : r.IsOn p.name
  missed : ∃ values, p.choices = some values ∧
    ∀ v ∈ values, ∀ text, v.display? = some text → r.matches? text = false

/-- The warnings about a parameter with listed values and rules on it. -/
theorem coverageOf_eq {values : List Json} (hv : p.choices = some values)
    (hr : rulesOn p.name rules ≠ []) :
    coverageOf rules noWebhooks p =
      (if noWebhooks then ((values.filterMap Json.display?).filter fun text =>
          !(rulesOn p.name rules).any fun r => r.matches? text).map (.unmatchedValue p.name) else []) ++
        ((rulesOn p.name rules).filter fun r =>
          !(values.filterMap Json.display?).any fun text => r.matches? text).map
            fun r => .unreachableRule p.name r.rule.pattern := by
  obtain ⟨r, rs, hrs⟩ := List.exists_cons_of_ne_nil hr
  rw [coverageOf, hv, hrs]

/-- There are no warnings without listed values or without rules on the parameter. -/
theorem coverageOf_eq_nil (h : p.choices = none ∨ rulesOn p.name rules = []) :
    coverageOf rules noWebhooks p = [] := by
  unfold coverageOf
  rcases h with h | h
  · rw [h]
  · rw [h]
    cases p.choices <;> rfl

/-- The values that are warned about are those that no rule on the parameter matches. -/
theorem mem_unmatched {values : List Json} (hv : p.choices = some values)
    (hr : rulesOn p.name rules ≠ []) :
    text ∈ (values.filterMap Json.display?).filter (fun text =>
      !(rulesOn p.name rules).any fun r => r.matches? text) ↔ Unmatched rules p text := by
  rw [List.mem_filter, List.mem_filterMap, Bool.not_eq_true', List.any_eq_false]
  constructor
  · rintro ⟨hl, hm⟩
    obtain ⟨r, hrel⟩ := List.exists_mem_of_ne_nil _ hr
    refine ⟨⟨values, hv, hl⟩, ⟨r, mem_rulesOn.1 hrel⟩, fun r hr hon => ?_⟩
    rw [← Bool.not_eq_true]
    exact hm r (mem_rulesOn.2 ⟨hr, hon⟩)
  · rintro ⟨⟨vs, hvs, hl⟩, -, hm⟩
    obtain rfl := Option.some.inj (hv.symm.trans hvs)
    refine ⟨hl, fun r hr => ?_⟩
    rw [Bool.not_eq_true]
    exact hm r (mem_rulesOn.1 hr).1 (mem_rulesOn.1 hr).2

/-- The rules that are warned about are those on the parameter that match no value. -/
theorem mem_dead {values : List Json} (hv : p.choices = some values) {r : ReadyRule} :
    r ∈ (rulesOn p.name rules).filter (fun r =>
      !(values.filterMap Json.display?).any fun text => r.matches? text) ↔ Dead rules p r := by
  rw [List.mem_filter, mem_rulesOn, Bool.not_eq_true', List.any_eq_false]
  constructor
  · rintro ⟨⟨hr, hon⟩, hm⟩
    refine ⟨hr, hon, values, hv, fun v hv text ht => ?_⟩
    rw [← Bool.not_eq_true]
    exact hm text (List.mem_filterMap.2 ⟨v, hv, ht⟩)
  · rintro ⟨hr, hon, vs, hvs, hm⟩
    obtain rfl := Option.some.inj (hv.symm.trans hvs)
    refine ⟨⟨hr, hon⟩, fun text ht => ?_⟩
    obtain ⟨v, hmem, ht⟩ := List.mem_filterMap.1 ht
    rw [Bool.not_eq_true]
    exact hm v hmem text ht

/-- **The warnings about a parameter** are those of the texts that are left out, if no webhook takes
them, and of the dead rules. -/
theorem mem_coverageOf {w : Warning} :
    w ∈ coverageOf rules noWebhooks p ↔
      noWebhooks = true ∧ (∃ text, Unmatched rules p text ∧ w = .unmatchedValue p.name text) ∨
      ∃ r, Dead rules p r ∧ w = .unreachableRule p.name r.rule.pattern := by
  by_cases h : p.choices = none ∨ rulesOn p.name rules = []
  · have hno : ∀ values, p.choices = some values → ∀ r ∈ rules, ¬r.IsOn p.name := by
      intro values hv r hr hon
      rcases h with hn | hn
      · cases hn.symm.trans hv
      · have hm : r ∈ rulesOn p.name rules := mem_rulesOn.2 ⟨hr, hon⟩
        rw [hn] at hm
        cases hm
    rw [coverageOf_eq_nil h]
    constructor
    · nofun
    · rintro (⟨-, text, ⟨⟨values, hv, -⟩, ⟨r, hr, hon⟩, -⟩, -⟩ | ⟨r, ⟨hr, hon, values, hv, -⟩, -⟩)
      · exact absurd hon (hno values hv r hr)
      · exact absurd hon (hno values hv r hr)
  · obtain ⟨hc, hr⟩ := not_or.1 h
    obtain ⟨values, hv⟩ := Option.ne_none_iff_exists'.1 hc
    rw [coverageOf_eq hv hr, List.mem_append]
    refine or_congr ?_ ?_
    · cases noWebhooks with
      | false => simp
      | true =>
        rw [if_pos rfl, List.mem_map]
        simp only [mem_unmatched hv hr, true_and, eq_comm]
    · rw [List.mem_map]
      simp only [mem_dead hv, eq_comm]

end Lint

/-! ## Compiled tools -/

variable {d : Document} {instanceKey : Option String} {t : Tool} {m : ReadyMap}

/-- A tool holds the document with its methods in normal form, of which the parameters have been
checked and the runtime has been made. -/
structure Document.Compiled (d : Document) (t : Tool) : Prop where
  checked : Check.parameters d.name d.parameters = .ok ()
  runtime : Compile.runtime d.normalized = .ok t.runtime
  document : t.document = d.normalized
  parameters : t.parameters = d.parameters.list

/-- A document that compiles is checked, and its tool is made of its parts. -/
theorem Document.compiled (hc : d.compile instanceKey = .ok t) : d.Compiled t := by
  obtain ⟨_, -, hc⟩ := Except.bind_eq_ok.1 hc
  obtain ⟨_, hp, hc⟩ := Except.bind_eq_ok.1 hc
  obtain ⟨r, hr, hc⟩ := Except.bind_eq_ok.1 hc
  obtain rfl := Except.ok.inj hc
  exact ⟨hp, hr, rfl, rfl⟩

/-- A compiled map has the webhooks of the document. -/
theorem Compile.dataMap_webhooks {tool : String} {dm : DataMap} {declared : List String}
    {ready : ReadyMap} (h : dataMap tool dm declared = .ok ready) : ready.webhooks = dm.webhooks := by
  obtain ⟨_, -, h⟩ := Except.bind_eq_ok.1 h
  obtain ⟨_, -, h⟩ := Except.bind_eq_ok.1 h
  obtain ⟨_, -, h⟩ := Except.bind_eq_ok.1 h
  obtain ⟨_, -, h⟩ := Except.bind_eq_ok.1 h
  obtain ⟨_, -, h⟩ := Except.bind_eq_ok.1 h
  obtain rfl := Except.ok.inj h
  rfl

/-- The webhooks of a tool are those of its document. -/
theorem Document.Compiled.webhooks (h : d.Compiled t) (hm : t.map? = some m) :
    ∃ dm, t.document.dataMap = some dm ∧ m.webhooks = dm.webhooks := by
  have hr := h.runtime
  rw [h.document]
  rw [Tool.map?_eq_some.1 hm] at hr
  generalize d.normalized = n at hr ⊢
  unfold Compile.runtime at hr
  split at hr
  · cases hr
  · cases hr
  · rename_i dm hdm hu
    obtain ⟨ready, hready, hr⟩ := Except.bind_eq_ok.1 hr
    obtain rfl := Runtime.dataMap.inj (Except.ok.inj hr)
    exact ⟨dm, hdm, Compile.dataMap_webhooks hready⟩
  · obtain ⟨_, -, hr⟩ := Except.bind_eq_ok.1 hr
    cases hr

/-- The warnings about a tool, but for those of undeclared parameters, are those of its parameters.
-/
theorem Document.Compiled.mem_warnings (h : d.Compiled t) (hm : t.map? = some m)
    {w : Warning} (hw : ∀ name, w ≠ .undeclared name) :
    w ∈ t.warnings ↔ ∃ p ∈ t.parameters, w ∈ Lint.coverageOf m.matcher m.webhooks.isEmpty p := by
  obtain ⟨dm, hdm, hh⟩ := h.webhooks hm
  have hu : w ∉ Lint.undeclared dm (t.parameters.map (·.name)) := by
    intro hmem
    obtain ⟨name, -, rfl⟩ := List.mem_map.1 hmem
    exact hw name rfl
  rw [Tool.warnings, hdm, hm]
  simp only [Lint.warnings, List.mem_append, hu, false_or, List.mem_flatMap, hh]

/-- A parameter of a tool is declared in its document. -/
theorem Document.Compiled.exists_property (h : d.Compiled t) {p : Parameter}
    (hp : p ∈ t.parameters) :
    ∃ e ∈ d.parameters.properties, p.name = e.1 ∧ p.type = e.2.type ∧ p.choices = e.2.choices := by
  rw [h.parameters] at hp
  obtain ⟨e, he, rfl⟩ := List.mem_map.1 hp
  exact ⟨e, he, rfl, rfl, rfl⟩

/-- The parameters of a tool have different names. -/
theorem Document.Compiled.eq_of_name (h : d.Compiled t) {p q : Parameter}
    (hp : p ∈ t.parameters) (hq : q ∈ t.parameters) (hname : p.name = q.name) : p = q := by
  have hn : (t.parameters.map (·.name)).Nodup := by
    rw [h.parameters, Parameters.list, List.map_map]
    exact (Check.parameters_eq_ok.1 h.checked).distinct
  exact List.inj_on_of_nodup_map hn hp hq hname

/-- The name of a parameter is plain. -/
theorem Document.Compiled.isPlainName (h : d.Compiled t) {p : Parameter}
    (hp : p ∈ t.parameters) : IsPlainName p.name := by
  obtain ⟨e, he, hn, -, -⟩ := h.exists_property hp
  rw [hn]
  exact Check.isPlainName_of_parameters h.checked (List.mem_map_of_mem he)

/-- A listed value has a text, for it is of a type and so not null. -/
theorem Document.Compiled.exists_display? (h : d.Compiled t) {p : Parameter}
    (hp : p ∈ t.parameters) {values : List Json} (hv : p.choices = some values) {v : Json}
    (hm : v ∈ values) : ∃ text, v.display? = some text := by
  obtain ⟨e, he, -, -, hch⟩ := h.exists_property hp
  have hps := Check.parameters_eq_ok.1 h.checked
  have ha : e.2.type.accepts v = true :=
    (hps.properties e he).choicesTyped values (hch ▸ hv) v hm
  refine Option.ne_none_iff_exists'.1 fun hn => ?_
  rw [Json.display?_eq_none.1 hn] at ha
  cases htype : e.2.type <;> simp [htype, ParamType.accepts] at ha

/-! ## Warnings and runs -/

/-- A rule whose subject is the reference to a parameter holds if it matches the argument. -/
theorem ReadyRule.holds_eq {r : ReadyRule} {name : String} (hs : r.rule.subject = Template.argument name)
    (hn : IsPlainName name) (hd : Path.IsDotted name) {args : List (String × Json)} {v : Json}
    (hv : Entries.get? name args = some v) {text : String} (ht : v.display? = some text)
    (global : Json) : r.holds (.forInvocation (.obj args) global) = r.matches? text := by
  have hargs : (Scopes.forInvocation (.obj args) global).get? Scopes.argsName = some (.obj args) :=
    Scopes.get?_forInvocation
  rw [ReadyRule.holds, hs, Reading.standard_text, Template.expand_argument hn hd hargs hv, ht,
    Option.getD_some]

/-- **The warnings about the listed values of a parameter predict the rules.**  For arguments that
give the parameter one of its listed values, some rule holds unless a warning names this value, if
there are no webhooks and the rules on the parameter are written without blanks around their
subjects; and such a rule never holds if a warning names it. -/
theorem Document.coverage_predicts (hc : d.compile instanceKey = .ok t) (hm : t.map? = some m)
    {p : Parameter} (hp : p ∈ t.parameters) (hd : Path.IsDotted p.name) {values : List Json}
    (hvalues : p.choices = some values) {v : Json} (hv : v ∈ values) {args : List (String × Json)}
    (hargs : Entries.get? p.name args = some v) (global : Json) :
    ∃ text, v.display? = some text ∧
      (m.webhooks = [] → (∃ r ∈ m.matcher, r.IsOn p.name) →
        (∀ r ∈ m.matcher, r.IsOn p.name → r.rule.subject = Template.argument p.name) →
        .unmatchedValue p.name text ∉ t.warnings →
        ∃ i r, m.matcher.evaluate? (.forInvocation (.obj args) global) = some (i, r)) ∧
      ∀ r ∈ m.matcher, r.rule.subject = Template.argument p.name →
        .unreachableRule p.name r.rule.pattern ∈ t.warnings →
        r.holds (.forInvocation (.obj args) global) = false := by
  have h := Document.compiled hc
  obtain ⟨text, ht⟩ := h.exists_display? hp hvalues hv
  have hplain := h.isPlainName hp
  refine ⟨text, ht, fun hw hsome hexact hno => ?_, fun r hr hs hdead => ?_⟩
  -- if no rule held, the value would be left out and named
  · by_contra hnone
    refine hno ((h.mem_warnings hm (by simp)).2 ⟨p, hp, Lint.mem_coverageOf.2 (.inl ?_)⟩)
    have he : m.matcher.evaluate? (.forInvocation (.obj args) global) = none := by
      cases he : m.matcher.evaluate? (.forInvocation (.obj args) global) with
      | none => rfl
      | some found => exact absurd ⟨found.1, found.2, he⟩ hnone
    refine ⟨by rw [hw]; rfl, text, ⟨⟨values, hvalues, v, hv, ht⟩, hsome, fun r hr hon => ?_⟩, rfl⟩
    rw [← ReadyRule.holds_eq (hexact r hr hon) hplain hd hargs ht global, ← Bool.not_eq_true]
    exact Matcher.not_of_firstIndexed? he r hr
  · rw [ReadyRule.holds_eq hs hplain hd hargs ht global]
    obtain ⟨q, hq, hmem⟩ := (h.mem_warnings hm (by simp)).1 hdead
    rcases Lint.mem_coverageOf.1 hmem with ⟨-, _, -, he⟩ | ⟨s, hs, he⟩
    · cases he
    · obtain ⟨hname, hpattern⟩ := Warning.unreachableRule.inj he
      obtain rfl := h.eq_of_name hp hq hname
      -- rules with one pattern have one expression
      have hw := Document.map_wellFormed hc (Tool.map?_eq_some.1 hm)
      have hregex : r.regex = s.regex := by
        have hrr := (hw.rules r hr).2
        rw [hpattern, (hw.rules s hs.mem).2] at hrr
        exact (Except.ok.inj hrr).symm
      obtain ⟨vs, hvs, hmissed⟩ := hs.missed
      obtain rfl := Option.some.inj (hvalues.symm.trans hvs)
      rw [ReadyRule.matches?, hregex]
      exact hmissed v hv text ht

/-- A document with a rule for one of its listed values, and a rule for none. -/
def switch : Document where
  name := "switch"
  parameters := {
    properties := [("action", { type := .string, choices := some [.str "start"] })] }
  dataMap := some {
    rules := [
      { subject := "${args.action}", pattern := "^start$", output := { response := "on" } },
      { subject := "${args.action}", pattern := "^rewind$", output := { response := "back" } }] }

/-- The value that no warning names is matched, and the rule that a warning names does not hold. -/
theorem coverage_predicts_switch :
    ∃ t m, switch.compile none = .ok t ∧ t.map? = some m ∧
      (∃ i r, m.matcher.evaluate? (.forInvocation (.obj [("action", .str "start")]) .null) =
        some (i, r)) ∧
      ∃ r ∈ m.matcher, r.rule.pattern = "^rewind$" ∧
        r.holds (.forInvocation (.obj [("action", .str "start")]) .null) = false := by
  have hf : ((switch.compile none).toOption.map fun t => (t.warnings, t.map?.map fun m =>
      (m.webhooks.isEmpty, m.matcher.all fun r => r.rule.subject = "${args.action}",
        m.matcher.any fun r => r.rule.pattern = "^rewind$"))) =
      some ([.unreachableRule "action" "^rewind$"], some (true, true, true)) := by
    decide +kernel
  obtain ⟨t, hc, hf⟩ := Option.map_eq_some_iff.1 hf
  obtain ⟨hwarnings, hmap⟩ := by simpa only [Prod.mk.injEq] using hf
  obtain ⟨m, hm, hmap⟩ := Option.map_eq_some_iff.1 hmap
  obtain ⟨hwebhooks, hall, hany⟩ := by simpa only [Prod.mk.injEq] using hmap
  obtain ⟨r, hr, hpattern⟩ := List.any_eq_true.1 hany
  have hok := Except.toOption_eq_some.1 hc
  have hsubject : ∀ r ∈ m.matcher, r.rule.subject = Template.argument "action" :=
    fun r hr => of_decide_eq_true (List.all_eq_true.1 hall r hr)
  have hpattern : r.rule.pattern = "^rewind$" := of_decide_eq_true hpattern
  have hon : r.IsOn "action" := by
    rw [ReadyRule.IsOn, hsubject r hr]
    decide
  obtain ⟨p, hp, hname, hvalues⟩ : ∃ p ∈ t.parameters,
      p.name = "action" ∧ p.choices = some [.str "start"] := by
    rw [(Document.compiled hok).parameters]
    exact ⟨_, List.mem_cons_self, rfl, rfl⟩
  have hdotted : Path.IsDotted "action" := fun hd => absurd (hd 'a' (by decide)) (by decide)
  have hargs : Entries.get? p.name [("action", Json.str "start")] = some (.str "start") := by
    rw [hname]
    rfl
  rw [← hname] at hdotted hon hsubject
  obtain ⟨text, ht, hfound, hdead⟩ :=
    Document.coverage_predicts hok hm hp hdotted hvalues List.mem_cons_self hargs .null
  obtain rfl := Option.some.inj ht
  refine ⟨t, m, hok, hm, hfound (List.isEmpty_iff.1 hwebhooks) ⟨r, hr, hon⟩
    (fun r hr _ => hsubject r hr) ?_, r, hr, hpattern, hdead r hr (hsubject r hr) ?_⟩
  · rw [hwarnings]
    simp
  · rw [hwarnings, hpattern, hname]
    exact List.mem_cons_self

/-- A document with a blank before the subjects of its rules on one parameter, and with a parameter
whose name does not lead behind a dot where it leads by itself. -/
def paddedSwitch : Document where
  name := "switch"
  parameters := {
    properties := [
      ("action", { type := .string, choices := some [.str "start", .str "stop"] }),
      ("00", { type := .string, choices := some [.str "now"] })] }
  dataMap := some {
    rules := [
      { subject := " ${args.action}", pattern := "^start$", output := { response := "on" } },
      { subject := " ${args.action}", pattern := "^ stop$", output := { response := "off" } },
      { subject := "${args.00}", pattern := "^now$", output := { response := "now" } }] }

/-- Where the warnings are wrong: no rule holds for the values `start` and `now`, which no warning
names, and a rule that a warning calls dead holds for `stop`. -/
theorem coverage_of_padded_subjects :
    ∃ t m, paddedSwitch.compile none = .ok t ∧ t.map? = some m ∧ m.webhooks = [] ∧
      t.warnings = [.unmatchedValue "action" "stop", .unreachableRule "action" "^ stop$"] ∧
      m.matcher.evaluate? (.forInvocation (.obj [("action", .str "start"), ("00", .str "now")])
        .null) = none ∧
      ∃ r ∈ m.matcher, r.rule.pattern = "^ stop$" ∧
        r.holds (.forInvocation (.obj [("action", .str "stop")]) .null) = true := by
  have hf : ((paddedSwitch.compile none).toOption.map fun t => (t.warnings,
      t.map?.map fun m => (m.webhooks.isEmpty, (m.matcher.evaluate? (.forInvocation
        (.obj [("action", .str "start"), ("00", .str "now")]) .null)).isNone,
        m.matcher.any fun r => r.rule.pattern = "^ stop$" &&
          r.holds (.forInvocation (.obj [("action", .str "stop")]) .null)))) =
      some ([.unmatchedValue "action" "stop", .unreachableRule "action" "^ stop$"],
        some (true, true, true)) := by
    decide +kernel
  obtain ⟨t, hc, hf⟩ := Option.map_eq_some_iff.1 hf
  obtain ⟨hwarnings, hmap⟩ := by simpa only [Prod.mk.injEq] using hf
  obtain ⟨m, hm, hmap⟩ := Option.map_eq_some_iff.1 hmap
  obtain ⟨hwebhooks, hnone, hany⟩ := by simpa only [Prod.mk.injEq] using hmap
  obtain ⟨r, hr, hstop⟩ := List.any_eq_true.1 hany
  obtain ⟨hpattern, hholds⟩ := by simpa using hstop
  exact ⟨t, m, Except.toOption_eq_some.1 hc, hm, List.isEmpty_iff.1 hwebhooks, hwarnings,
    Option.isNone_iff_eq_none.1 hnone, r, hr, hpattern, hholds⟩

end AgentTool
