import AgentTool.Proofs.CompiledMaps
import AgentTool.Proofs.Expansions
import AgentTool.Proofs.Invocations

/-!
# What names stand for

At each site of a run every name has one meaning, whatever replies, their items and the names of
iterations hold (`Site.lookup`):

| name | stands for | at |
| --- | --- | --- |
| `args`, `global`, `global_data` | what the invocation binds | every site |
| `response` | the body of the reply, or of the last failure | items and outputs, or the fallback |
| `array` | the same, if it is an array | the same |
| `this` | the item | items |
| `foreach` | an object of the position of the item alone | items |
| the name of an iteration | the text of its items | the output of its webhook |

The name of an iteration is none of the others, as the check of its document makes sure; so no layer
hides a name of another one, and what a layer binds ends with it (`Engine.runInTime_scopes`).
-/

namespace AgentTool

namespace Site

/-- The body that is bound as the reply. -/
def reply? : Site → Option Json
  | plain => none
  | item body _ _ | output body _ => some body
  | fallback body? => body?

/-- The body that is bound as the reply, if it is an array. -/
def array? (site : Site) : Option Json :=
  match site.reply? with
  | some (.arr items) => some (.arr items)
  | _ => none

/-- The item that is bound, with its position. -/
def item? : Site → Option (Nat × Json)
  | item _ v index => some (index, v)
  | _ => none

/-- The text that is bound under a name of its own. -/
def text? : Site → String → Option Json
  | output _ (some (key, text)), name => if name = key then some (.str text) else none
  | _, _ => none

/-- What a name stands for at a site of an invocation. -/
def lookup (args global : Json) (site : Site) (name : String) : Option Json :=
  if name = Scopes.argsName then some args
  else if name = Scopes.globalName ∨ name = Scopes.globalDataName then some global
  else if name = Scopes.responseName then site.reply?
  else if name = Scopes.arrayName then site.array?
  else if name = Scopes.thisName then site.item?.map fun p => Foreach.boundItem p.1 p.2
  else if name = Scopes.foreachName then site.item?.map fun p => .obj [("index", .int p.1)]
  else site.text? name

end Site

namespace Scopes

variable {s : Scopes} {args global body : Json} {name : String}

/-- A new layer hides nothing. -/
theorem get?_push : s.push.get? name = s.get? name := rfl

/-- A reply is bound under its own names alone. -/
theorem get?_bindResponse_of_ne (hr : name ≠ responseName) (ha : name ≠ arrayName) :
    (s.bindResponse body).get? name = s.get? name := by
  unfold bindResponse
  cases body with
  | arr items => rw [get?_bind, if_neg hr, get?_bind, if_neg ha]
  | _ => rw [get?_bind, if_neg hr]

end Scopes

namespace Site

variable {args global body : Json} {name : String}

/-! ## Layers -/

/-- The layer of the invocation. -/
theorem get?_plain : (Scopes.forInvocation args global).get? name = plain.lookup args global name := by
  rw [Scopes.get?_forInvocation]
  unfold lookup
  by_cases ha : name = Scopes.argsName
  · subst ha
    rfl
  · rw [if_neg ha]
    simp only [List.mem_cons, List.not_mem_nil, or_false, if_neg ha]
    split_ifs <;> rfl

/-- The layer of a reply. -/
theorem get?_reply : ((Scopes.forInvocation args global).push.bindResponse body).get? name =
    (fallback (some body)).lookup args global name := by
  by_cases hr : name = Scopes.responseName
  · rw [hr, Scopes.get?_bindResponse]
    rfl
  by_cases ha : name = Scopes.arrayName
  · rw [ha]
    cases body <;> rfl
  rw [Scopes.get?_bindResponse_of_ne hr ha, Scopes.get?_push, get?_plain]
  unfold lookup
  rw [if_neg hr, if_neg ha, if_neg hr, if_neg ha]
  rfl

/-- The layer of an item. -/
theorem get?_item {v : Json} {index : Nat} :
    (Foreach.itemScopes ((Scopes.forInvocation args global).push.bindResponse body) index v).get?
      name = (item body v index).lookup args global name := by
  rw [Foreach.itemScopes, Scopes.get?_bind, Scopes.get?_bind, Scopes.get?_push, get?_reply]
  by_cases hf : name = Scopes.foreachName
  · rw [if_pos hf, hf]
    rfl
  by_cases ht : name = Scopes.thisName
  · rw [if_neg hf, if_pos ht, ht]
    rfl
  rw [if_neg hf, if_neg ht]
  unfold lookup
  rw [if_neg hf, if_neg ht, if_neg hf, if_neg ht]
  rfl

/-- The layer of the text of the items, under a name that is none of the others. -/
theorem get?_output {key text : String} (hk : key ∉ Check.reservedNames) :
    (((Scopes.forInvocation args global).push.bindResponse body).push.bind key (.str text)).get?
      name = (output body (some (key, text))).lookup args global name := by
  rw [Scopes.get?_bind, Scopes.get?_push, get?_reply]
  by_cases hn : name = key
  · subst hn
    simp only [Check.reservedNames, List.mem_cons, List.not_mem_nil, or_false, not_or] at hk
    obtain ⟨ha, hr, hg, hd, ht, har, hf⟩ := hk
    unfold lookup
    rw [if_pos rfl, if_neg ha, if_neg (not_or.2 ⟨hg, hd⟩), if_neg hr, if_neg har, if_neg ht, if_neg hf]
    exact (if_pos rfl).symm
  · rw [if_neg hn]
    have ht : (output body (some (key, text))).text? name = none := if_neg hn
    unfold lookup
    rw [ht]
    rfl

end Site

namespace Engine

/-- **At every site a name stands for what the site gives it.** -/
theorem Frame.Expands.get? {f : Frame} {declared : List String} {args global : Json} {n : Network}
    {site : Site} {s : String} {scopes : Scopes} (hm : f.map.WellFormed declared)
    (hf : f.scopes = Scopes.forInvocation args global) (h : f.Expands n site s scopes)
    (name : String) : scopes.get? name = site.lookup args global name := by
  cases h with
  | subject | rule | otherwise | request =>
    rw [hf]
    exact Site.get?_plain
  | item =>
    rw [hf]
    exact Site.get?_item
  | @output k status h o last body layer _ _ _ _ hh _ _ hl =>
    rw [hf] at hl ⊢
    unfold Webhook.outputScopes at hl
    unfold Webhook.joined?
    cases hg : h.foreach with
    | none =>
      simp only [hg] at hl
      obtain rfl := Except.ok.inj hl
      exact Site.get?_reply
    | some g =>
      have hfree : g.output ∉ Check.reservedNames :=
        ((hm.webhooks h (List.mem_of_getElem? hh)).foreach g hg).free
      simp only [hg] at hl
      split at hl
      · cases hl
      · obtain rfl := Except.ok.inj hl
        exact Site.get?_output hfree
  | @fallback o last =>
    unfold fallbackScopes
    rw [hf]
    cases last.body with
    | none => exact Site.get?_plain
    | some body => exact Site.get?_reply
  | late =>
    unfold fallbackScopes
    rw [hf]
    exact Site.get?_plain

/-- **Scopes keep their meaning throughout a run.**  For a compiled map, any arguments, variables
and network: the run expands templates only at its sites, so that what a reading makes of them
elsewhere has no effect; and at each site every name stands for what the site gives it, and for
nothing that a reply, an item or the name of an iteration brings in under another name. -/
theorem runInTime_scopes {d : Document} {instanceKey : Option String} {t : Tool} {m : ReadyMap}
    (hc : d.compile instanceKey = .ok t) (hm : t.runtime = .dataMap m) (e : Engine)
    (limits : Limits) (id : String) (i : Invocation) (w : World) :
    let f : Frame := ⟨e, limits, id, m, i.scopes⟩
    (e.registry.get? i.tool = some t → e.answer limits id i = runInTime f) ∧
      (∀ R : Reading, f.Suits w.network R → (runInTime f R).exec w = (runInTime f).exec w) ∧
      ∀ site s scopes, f.Expands w.network site s scopes →
        ∀ name, scopes.get? name = site.lookup i.boundArguments i.boundGlobal name := by
  intro f
  refine ⟨fun ht => ?_, fun R hR => runInTime_of_suits hR, fun site s scopes h =>
    h.get? (Document.map_wellFormed hc hm) rfl⟩
  unfold answer
  simp only [ht, hm]
  rfl

/-- A document with a webhook that joins the rows of its reply. -/
def rowListing : Document where
  name := "rows"
  dataMap := some {
    webhooks := [{
      url := "http://h/x"
      foreach := some { input := "rows", output := "list", append := "${foreach.index}," }
      output := some { response := "${list}" } }]
    fallback := some { response := "none" } }

/-- A reply with a row that has fields of its own under the names of an item. -/
def rowReply : List UInt8 :=
  Text.utf8 "\x7b\"args\":1,\"rows\":[\x7b\"index\":7,\"foreach\":2\x7d]\x7d".toList

/-- A network that gives this reply. -/
def rowNetwork : Network where
  reaches _ := true
  replies := [{ reply := .answer 200 none rowReply true }]

/-- The body that a call comes to. -/
def calledBody? : Except Stop (Except CallFailure (Nat × Json)) → Option Json
  | .ok (.ok (_, body)) => some body
  | _ => none

/-- At the first row of a reply `foreach` is its position, whatever the row has under this name, and
neither the reply nor the joined text is bound under a name of the invocation or of its own. -/
theorem position_beside_fields :
    ∃ t m body row scopes, rowListing.compile none = .ok t ∧ t.runtime = .dataMap m ∧
      Json.compact row = "\x7b\"index\":7,\"foreach\":2\x7d" ∧
      (Frame.mk (ofTool t) {} "" m (Invocation.scopes { tool := "rows" })).Expands rowNetwork
        (.item body row 0) "${foreach.index}," scopes ∧
      scopes.get? "foreach" = some (.obj [("index", .int 0)]) ∧
      scopes.get? "args" = some (.obj []) ∧ scopes.get? "list" = none ∧
      scopes.get? "response" = some body := by
  have hrun : ((rowListing.compile none).toOption.bind fun t => t.map?.bind fun m =>
      m.webhooks.head?.bind fun h =>
        (calledBody? ((Run.call ⟨{}, {}, "", 0⟩ h (Invocation.scopes { tool := "rows" })).exec
          { network := rowNetwork }).1).bind fun body =>
            h.foreach.map fun g => (g.append, (g.items body).head?.map Json.compact)) =
      some ("${foreach.index},", some "\x7b\"index\":7,\"foreach\":2\x7d") := by
    decide +kernel
  obtain ⟨t, hc, hrun⟩ := Option.bind_eq_some_iff.1 hrun
  obtain ⟨m, hm, hrun⟩ := Option.bind_eq_some_iff.1 hrun
  obtain ⟨h, hh, hrun⟩ := Option.bind_eq_some_iff.1 hrun
  have hc := Except.toOption_eq_some.1 hc
  have hm := Tool.map?_eq_some.1 hm
  rcases hx : (Run.call ⟨{}, {}, "", 0⟩ h (Invocation.scopes { tool := "rows" })).exec
    { network := rowNetwork } with ⟨_ | _ | ⟨status, body⟩, w'⟩ <;> rw [hx] at hrun
  · cases hrun
  · cases hrun
  obtain ⟨g, hg, hrun⟩ := Option.map_eq_some_iff.1 hrun
  obtain ⟨happend, hitem⟩ := Prod.mk.inj hrun
  obtain ⟨row, hrow, hcompact⟩ := Option.map_eq_some_iff.1 hitem
  let f : Frame := ⟨ofTool t, {}, "", m, Invocation.scopes { tool := "rows" }⟩
  have hcalls : f.Calls h rowNetwork (.ok (status, body)) w'.network :=
    calls_of_exec (f := f) hx
  rw [List.head?_eq_getElem?] at hh hrow
  have hsite := Frame.Expands.item (f := f) (n := rowNetwork) .start hh hcalls hg hrow
  have hlookup := (runInTime_scopes hc hm (ofTool t) {} "" { tool := "rows" }
    { network := rowNetwork }).2.2 _ _ _ hsite
  rw [happend] at hsite
  exact ⟨t, m, body, row, _, hc, hm, hcompact, hsite, hlookup "foreach", hlookup "args",
    hlookup "list", hlookup "response"⟩

end Engine
end AgentTool
