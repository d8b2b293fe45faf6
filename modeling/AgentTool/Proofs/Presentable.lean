import AgentTool.Proofs.InvocationTraces
import AgentTool.Proofs.WellFormed

/-!
# Every answer shows something

An answer is presentable if it has a character that is not blank, or an action.  What a tool
renders may be neither, since templates may expand to nothing; then the failure text takes the
place of the text, and the rest is kept (`Engine.Presents`).  So the failure text must show
something itself.  That is seen to three times:

| where | how |
| --- | --- |
| a change of settings | a blank failure text is passed over |
| the fixed values | they have one |
| an engine that is set up | settings with a blank failure text are refused |
-/

namespace AgentTool

/-- An answer shows something: a character that is not blank, or an action. -/
def Rendered.Presentable (r : Rendered) : Prop := IsVisible r.response ∨ r.actions ≠ []

/-- An answer is not blank exactly if it shows something. -/
theorem Rendered.isBlank_eq_false {r : Rendered} : r.isBlank = false ↔ r.Presentable := by
  rw [isBlank, Bool.and_eq_false_iff, isBlankString_eq_false, List.isEmpty_eq_false_iff,
    Presentable]

/-! ## Settings -/

namespace Config

variable {c : Config}

/-- A setting that leaves the failure text alone leaves it alone. -/
theorem set_failureText {α : Type} {value : Option α} {change : Config → α → Config}
    (h : ∀ a, (change c a).failureText = c.failureText) :
    (c.set value change).failureText = c.failureText := by
  cases value with
  | none => rfl
  | some a => exact h a

/-- No variable changes the failure text. -/
theorem ofLookup_failureText (lookup : String → Option String) :
    (ofLookup lookup).failureText = ({} : Config).failureText := by
  unfold ofLookup
  iterate 8 refine (set_failureText fun _ => rfl).trans ?_
  rfl

/-- No change of settings makes the failure text blank. -/
theorem apply_failureText (hc : Text.isBlankString c.failureText = false) (step : Step) :
    Text.isBlankString (c.apply step).failureText = false := by
  cases step with
  | failureText text =>
    show Text.isBlankString (c.withFailureText text).failureText = false
    unfold withFailureText
    split_ifs with h
    · exact hc
    · simpa using h
  | _ => exact hc

/-- No changes of settings, one after another, make the failure text blank. -/
theorem foldl_apply_failureText (hc : Text.isBlankString c.failureText = false)
    (steps : List Step) : Text.isBlankString (steps.foldl apply c).failureText = false := by
  induction steps generalizing c with
  | nil => exact hc
  | cons step steps ih => exact ih (apply_failureText hc step)

end Config

/-! ## Engines -/

namespace Engine

/-- An engine that has been set up from any settings, and given more tools since. -/
inductive Built : Engine → Prop
  | build {config : Config} {tools : List Tool} {documents : List Document} {e : Engine} :
      Engine.build config tools documents = .ok e → Built e
  | register {e e' : Engine} {t : Tool} : Built e → e.register t = .ok e' → Built e'
  | registerDocument {e e' : Engine} {d : Document} :
      Built e → e.registerDocument d = .ok e' → Built e'

variable {config : Config} {tools : List Tool} {documents : List Document} {e e' : Engine}

/-- What a transport refuses is refused as a fault of the transport. -/
theorem transportFault?_eq_some {fault : SetupError} (h : transportFault? config = some fault) :
    ∃ reason, fault = .transport reason := by
  unfold transportFault? at h
  split at h
  · split_ifs at h
    exact ⟨_, (Option.some.inj h).symm⟩
  · cases h

/-- Settings with a blank failure text are refused; others are kept, or refused for what a transport
or a definition needs. -/
theorem build_cases (config : Config) (tools : List Tool) (documents : List Document) :
    (Text.isBlankString config.failureText = true ∧
      ∃ message context, build config tools documents = .error (.configuration message context)) ∨
    (Text.isBlankString config.failureText = false ∧
      ((∃ registry, build config tools documents = .ok { config, registry }) ∨
        (∃ reason, build config tools documents = .error (.transport reason)) ∨
        ∃ fault, build config tools documents = .error (.definition fault))) := by
  unfold build
  cases hb : Text.isBlankString config.failureText with
  | true => exact .inl ⟨rfl, _, _, rfl⟩
  | false =>
    refine .inr ⟨rfl, ?_⟩
    cases ht : transportFault? config with
    | some fault =>
      obtain ⟨reason, rfl⟩ := transportFault?_eq_some ht
      exact .inr (.inl ⟨reason, rfl⟩)
    | none =>
      cases ha : Sent.isHeaderValue config.userAgent with
      | false => exact .inr (.inl ⟨_, rfl⟩)
      | true =>
        cases hd : documents.mapM fun d : Document => d.compile none with
        | error fault => exact .inr (.inr ⟨fault, rfl⟩)
        | ok compiled =>
          -- all that is left to fail is the table of tools
          let rest (table : Except DefinitionError Registry) : Except SetupError Engine :=
            table.mapError .definition >>= fun registry => .ok { config, registry }
          cases hr : Registry.registerAll .empty (tools ++ compiled) with
          | error fault => exact .inr (.inr ⟨fault, congrArg rest hr⟩)
          | ok registry => exact .inl ⟨registry, congrArg rest hr⟩

/-- An engine that is set up has its settings, with a failure text that shows something. -/
theorem build_ok (h : build config tools documents = .ok e) :
    Text.isBlankString config.failureText = false ∧ e.config = config := by
  rcases build_cases config tools documents with
    ⟨-, _, _, he⟩ | ⟨hb, ⟨registry, he⟩ | ⟨_, he⟩ | ⟨_, he⟩⟩
  · rw [he] at h
    cases h
  · rw [he] at h
    obtain rfl := Except.ok.inj h
    exact ⟨hb, rfl⟩
  · rw [he] at h
    cases h
  · rw [he] at h
    cases h

/-- Only a blank failure text is an error of settings. -/
theorem build_ne_configuration {message : String} {context : ErrorContext}
    (h : Text.isBlankString config.failureText = false) :
    build config tools documents ≠ .error (.configuration message context) := by
  rcases build_cases config tools documents with
    ⟨hb, -⟩ | ⟨-, ⟨registry, he⟩ | ⟨_, he⟩ | ⟨_, he⟩⟩
  · rw [h] at hb
    cases hb
  · rw [he]
    nofun
  · rw [he]
    nofun
  · rw [he]
    nofun

/-- Registering a tool changes no settings. -/
theorem register_config {t : Tool} (h : e.register t = .ok e') : e'.config = e.config := by
  obtain ⟨r, -, rfl⟩ := Except.map_eq_ok.1 h
  rfl

/-- The failure text of an engine shows something. -/
theorem Built.failureText (h : Built e) : Text.isBlankString e.config.failureText = false := by
  induction h with
  | build h =>
    obtain ⟨hb, hc⟩ := build_ok h
    rw [hc]
    exact hb
  | register _ hr ih =>
    rw [register_config hr]
    exact ih
  | registerDocument _ hr ih =>
    -- what a document is compiled to makes no difference to the settings
    obtain ⟨t, -, hr⟩ := Except.bind_eq_ok.1 hr
    rw [register_config hr]
    exact ih

/-! ## Answers -/

/-- A result presents an answer: everything is kept, but a text that is blank without actions is
replaced by the failure text. -/
structure Presents (e : Engine) (a : Answer) (r : InvocationResult) : Prop where
  outcome : r.outcome = a.2
  actions : r.output.actions = a.1.actions
  postProcess : r.output.postProcess = a.1.postProcess
  kept : a.1.Presentable → r.output.response = a.1.response
  replaced : ¬a.1.Presentable → r.output.response = e.config.failureText

/-- What the failure text has taken the place of shows something. -/
theorem presentable_presentable (h : Text.isBlankString e.config.failureText = false)
    (r : Rendered) : (e.presentable r).Presentable := by
  unfold presentable
  split_ifs with hb
  · exact .inl (isBlankString_eq_false.1 h)
  · exact Rendered.isBlank_eq_false.1 (by simpa using hb)

/-- An answer is presented by its presentable output. -/
theorem presents_presentable (e : Engine) (a : Answer) (id tool : String) (millis : Nat) :
    e.Presents a { id, tool, output := e.presentable a.1, outcome := a.2, millis } := by
  unfold presentable
  split_ifs with hb
  · have hn : ¬a.1.Presentable := fun h => by simp [Rendered.isBlank_eq_false.2 h] at hb
    exact ⟨rfl, rfl, rfl, fun h => absurd h hn, fun _ => rfl⟩
  · have hp : a.1.Presentable := Rendered.isBlank_eq_false.1 (by simpa using hb)
    exact ⟨rfl, rfl, rfl, fun _ => rfl, fun h => absurd hp h⟩

/-! ## Invocations -/

variable {i : Invocation}

/-- The world once the start of an invocation has been told. -/
def opened (id tool : String) (w : World) : World :=
  { w with events := w.events ++ [⟨id, .started tool⟩, ⟨id, .stateChanged .received⟩] }

/-- A run presents the answer of its tool. -/
theorem run_presents (id : String) {limits : Limits} {w : World}
    (h : Text.isBlankString e.config.failureText = false) :
    (e.run limits id i).Meets w
      (fun r _ => r.output.Presentable ∧ ∃ a w₁,
        (e.answer limits id i).exec (opened id i.tool w) = (.ok a, w₁) ∧ e.Presents a r)
      fun _ _ => True := by
  unfold run
  refine Run.Meets.emit_bind (Run.Meets.enter_bind ?_)
  refine Run.Meets.bind ((Run.Meets.self _ _).imp (fun _ _ ha => ha) fun _ _ _ => trivial) ?_
  rintro ⟨output, outcome⟩ w₁ ha
  rw [List.append_assoc] at ha
  refine Run.Meets.enter_bind (Run.Meets.bind (Q := fun _ _ => True) trivial fun _ _ _ => ?_)
  refine Run.Meets.emit_bind (Run.Meets.pure ?_)
  exact ⟨presentable_presentable h output, _, w₁, ha,
    presents_presentable e (output, outcome) id i.tool _⟩

/-- **Every invocation answers something presentable.**  An engine that has been set up presents the
answer of the tool, whichever way leads to it, and only what shows nothing is replaced.  Settings
that come from variables and changes are never refused for their failure text. -/
theorem invoke_presents :
    (∀ e : Engine, e.Built → ∀ (i : Invocation) (id : String) (w : World),
      (∃ r w', (e.invoke? (fun _ _ => false) id i).run w = (some r, w') ∧
        (e.invoke id i).run w = (r, w')) ∧
      ∀ cancels r w', (e.invoke? cancels id i).run w = (some r, w') →
        r.output.Presentable ∧ ∃ a w₁,
          (e.answer { deadline := e.config.deadline, cancels } id i).exec
            (opened id i.tool w.begun) = (.ok a, w₁) ∧ e.Presents a r) ∧
    ∀ (lookup : String → Option String) (steps : List Config.Step),
      let config := steps.foldl Config.apply (Config.ofLookup lookup)
      IsVisible config.failureText ∧
        ∀ tools documents message context,
          build config tools documents ≠ .error (.configuration message context) := by
  refine ⟨fun e hb i id w => ⟨?result, fun cancels r w' he => ?presents⟩, fun lookup steps => ?settings⟩
  case result =>
    obtain ⟨r, w', he⟩ := exists_invoke?_eq_some e i id w
    exact ⟨r, w', he, invoke_run he⟩
  case presents =>
    have hp := invoke?_meets (i := i) (w := w) (fun _ : ∃ n what, cancels n what = true => trivial)
      (run_presents id hb.failureText)
    rw [he] at hp
    exact hp
  case settings =>
    have hn : Text.isBlankString (steps.foldl Config.apply (Config.ofLookup lookup)).failureText =
        false := Config.foldl_apply_failureText (by rw [Config.ofLookup_failureText]; decide) steps
    exact ⟨isBlankString_eq_false.1 hn, fun tools documents message context => build_ne_configuration hn⟩

/-- A document that answers with an argument as it is. -/
def echo : Document where
  name := "echo"
  parameters := { properties := [("text", { type := .string })] }
  dataMap := some {
    rules := [{
      subject := "x", pattern := "x"
      output := { response := "${args.text}", postProcess := true } }] }

/-- Without its argument the text of the answer is the failure text, and the rest is kept. -/
theorem echo_presents :
    ∃ e, build {} [] [echo] = .ok e ∧ ∃ r w', (e.invoke "" { tool := "echo" }).run
        { network := .nowhere } = (r, w') ∧
      r.output.Presentable ∧ r.output.response = ({} : Config).failureText ∧
        r.output.postProcess = true ∧ r.outcome = .expression 0 := by
  have hrun : ((build {} [] [echo]).toOption.map fun e =>
      let r := ((e.invoke "" { tool := "echo" }).run { network := .nowhere }).1
      (r.output.response, r.output.postProcess, r.outcome)) =
      some (({} : Config).failureText, true, .expression 0) := by
    decide +kernel
  obtain ⟨e, hb, hrun⟩ := Option.map_eq_some_iff.1 hrun
  have hb := Except.toOption_eq_some.1 hb
  obtain ⟨⟨r, w', he?, he⟩, presents⟩ :=
    invoke_presents.1 e (.build hb) { tool := "echo" } "" { network := .nowhere }
  simp only [he, Prod.mk.injEq] at hrun
  exact ⟨e, hb, r, w', he, (presents _ r w' he?).1, hrun⟩

end Engine
end AgentTool
