import AgentTool.Proofs.Acceptance
import AgentTool.Proofs.OuterBlanks

/-!
# Where parameters go

The parameters of a request are those of the webhook, with their texts expanded, and behind them the
arguments as they are, if the webhook asks for them, under names that it has no parameter for
(`Webhook.parameters`).  All of them are sent, each once (`Webhook.prepare_carries`):

| request | carries them |
| --- | --- |
| `GET`, `DELETE` | in the query, behind the pairs of the address, null left out; the body is empty |
| other, with a form field | as JSON text in this field |
| other | as a JSON object, unless no parameters are set up and there are none |

A query is read as forms are (`Text.formPairs`).  What is appended is read back as it was, because
an encoded text holds neither of the marks that divide a form.
-/

namespace AgentTool

/-! ## Forms -/

namespace Text

/-- The name and the value of a piece of a form, as bytes; a piece without a mark is a name. -/
def formPair (piece : List Char) : List UInt8 × List UInt8 :=
  (formBytes (breakAt '=' piece).1, formBytes ((breakAt '=' piece).2.getD []))

/-- The pairs of a form, as bytes; nothing stands between two marks that follow upon each other. -/
def formPairs (cs : List Char) : List (List UInt8 × List UInt8) :=
  ((fields '&' cs).filter fun piece => !piece.isEmpty).map formPair

/-- The pairs of two forms are the pairs of the form of both. -/
theorem formPairs_append (cs ds : List Char) :
    formPairs (cs ++ '&' :: ds) = formPairs cs ++ formPairs ds := by
  rw [formPairs, fields_append_sep, List.filter_append, List.map_append]
  rfl

/-- **A pair that is written as a piece of a form is read as itself.** -/
theorem formPairs_encoded (name value : List Char) :
    formPairs (encodeForm name ++ '=' :: encodeForm value) = [(utf8 name, utf8 value)] := by
  have hn : ∀ cs, '&' ∉ encodeForm cs := fun cs =>
    (encodeForm_escaped cs).not_mem (by decide) (by decide) (by decide)
  have he : '=' ∉ encodeForm name :=
    (encodeForm_escaped name).not_mem (by decide) (by decide) (by decide)
  have hpiece : '&' ∉ encodeForm name ++ '=' :: encodeForm value := by
    simp [hn]
  have hcut : breakAt '=' (encodeForm name ++ '=' :: encodeForm value) =
      (encodeForm name, some (encodeForm value)) := by
    rw [breakAt_prepend he]
    simp [breakAt]
  simp [formPairs, fields_of_notMem hpiece, formPair, hcut, formBytes_encodeForm]

/-- A pair of texts as bytes. -/
def utf8Pair (p : String × String) : List UInt8 × List UInt8 := (utf8 p.1.toList, utf8 p.2.toList)

/-- **A form is read as the pairs that it writes.** -/
theorem formPairs_formText (pairs : List (String × String)) :
    formPairs (formText pairs).toList = pairs.map utf8Pair := by
  let write (p : String × String) : List Char :=
    encodeForm p.1.toList ++ '=' :: encodeForm p.2.toList
  have hw : (formText pairs).toList = ['&'].intercalate (pairs.map write) := by
    rw [formText, String.toList_intercalate, List.map_map]
    refine congrArg (List.intercalate _) (List.map_congr_left fun p _ => ?_)
    simp [write, encodeFormString]
  have hp (p : String × String) : formPairs (write p) = [utf8Pair p] := formPairs_encoded _ _
  rw [hw]
  clear hw
  induction pairs with
  | nil => rfl
  | cons p ps ih =>
    cases ps with
    | nil => rw [List.map_singleton, List.intercalate_singleton, hp, List.map_singleton]
    | cons q qs =>
      rw [List.map_cons, List.map_cons, List.intercalate_cons_cons, List.append_assoc,
        List.singleton_append, formPairs_append, ← List.map_cons, ih, hp]
      rfl

end Text

/-- The pairs of the query of an address; none without a query. -/
def Url.queryPairs (u : Url) : List (List UInt8 × List UInt8) := Text.formPairs (u.query.getD "").toList

/-- **Pairs are appended behind those of the query.** -/
theorem Url.queryPairs_appendPairs (u : Url) (pairs : List (String × String)) :
    (u.appendPairs pairs).queryPairs = u.queryPairs ++ pairs.map Text.utf8Pair := by
  rw [← Text.formPairs_formText]
  unfold queryPairs appendPairs
  generalize u.query.getD "" = old
  by_cases ho : old = ""
  · subst ho
    simp [Text.formPairs, Text.fields]
  by_cases hp : pairs = []
  · subst hp
    simp [Text.formPairs, Text.fields, Text.formText]
  · simp [ho, hp, Text.formPairs_append]

/-! ## Parameters -/

namespace Entries

variable {α : Type}

/-- The first entry of each key: all entries, if no key is there twice (`firsts_eq_self`). -/
def firsts : Entries α → Entries α
  | [] => []
  | e :: es => e :: (firsts es).filter fun d => d.1 ≠ e.1

/-- Entries whose keys differ are all first ones. -/
theorem firsts_eq_self {es : Entries α} (h : (keys es).Nodup) : firsts es = es := by
  induction es with
  | nil => rfl
  | cons e es ih =>
    obtain ⟨he, hes⟩ := List.nodup_cons.1 h
    rw [firsts, ih hes]
    refine congrArg (e :: ·) (List.filter_eq_self.2 fun d hd => ?_)
    have hne : d.1 ≠ e.1 := fun hde => he (List.mem_map.2 ⟨d, hd, hde⟩)
    simpa using hne

/-- What is filled in are the entries under new keys. -/
theorem fill_eq (es new : Entries α) :
    fill es new = es ++ (firsts new).filter fun e => e.1 ∉ keys es := by
  induction new generalizing es with
  | nil => simp [fill, firsts]
  | cons e new ih =>
    have hstep : fill es (e :: new) =
        fill (if (get? e.1 es).isSome then es else es ++ [e]) new := rfl
    rw [hstep, ih, firsts, List.filter_cons, List.filter_filter]
    by_cases h : e.1 ∈ keys es
    · rw [if_pos (Check.get?_isSome.2 h), if_neg (by simpa using h)]
      refine congrArg (es ++ ·) (List.filter_congr fun d _ => ?_)
      by_cases hde : d.1 = e.1
      · simp [hde, h]
      · simp [hde]
    · rw [if_neg (mt Check.get?_isSome.1 h), if_pos (by simpa using h), List.append_assoc]
      refine congrArg (es ++ e :: ·) (List.filter_congr fun d _ => ?_)
      have hk : d.1 ∈ keys (es ++ [e]) ↔ d.1 ∈ keys es ∨ d.1 = e.1 := by
        rw [keys, List.map_append, List.mem_append]
        exact or_congr_right List.mem_singleton
      simp only [hk, not_or, Bool.decide_and, ne_eq]

end Entries

/-- The text that stands for a value other than null. -/
def Json.shown : Json → String
  | .str s => s
  | v => v.compact

/-- A value other than null is displayed as it is shown. -/
theorem Json.display?_eq (v : Json) : v.display? = if v.isNull then none else some v.shown := by
  cases v <;> rfl

namespace Webhook

variable {w : Webhook} {scopes : Scopes} {url : Url}

/-- The parameters of a webhook, with the texts in them expanded, in their order. -/
def explicitParams (w : Webhook) (scopes : Scopes) : Entries Json :=
  match w.params with
  | some (.obj es) => es.map fun e => (e.1, Template.expandValue scopes e.2)
  | _ => []

/-- The arguments that a webhook adds, as they are. -/
def addedArgs (w : Webhook) (scopes : Scopes) : Entries Json :=
  match w.argsAsParams, scopes.get? Scopes.argsName with
  | true, some (.obj args) => Entries.firsts args
  | _, _ => []

/-- All parameters of a request: an argument under the name of a parameter is left out. -/
def parameters (w : Webhook) (scopes : Scopes) : Entries Json :=
  w.explicitParams scopes ++
    (w.addedArgs scopes).filter fun e => e.1 ∉ Entries.keys (w.explicitParams scopes)

/-- The arguments of an invocation, an object, have each name once; so no argument is left out but
those under the name of a parameter. -/
theorem parameters_of_args {args : Entries Json} (hw : w.argsAsParams = true)
    (ha : scopes.get? Scopes.argsName = some (.obj args)) (hn : (Entries.keys args).Nodup) :
    w.parameters scopes = w.explicitParams scopes ++
      args.filter fun e => e.1 ∉ Entries.keys (w.explicitParams scopes) := by
  simp only [parameters, addedArgs, hw, ha, Entries.firsts_eq_self hn]

/-- A request carries the parameters of its webhook completely: in the query of `url`, or in its
body. -/
structure Carries (w : Webhook) (scopes : Scopes) (url : Url) (r : Request) : Prop where
  method : r.method = Text.upperAscii w.method
  inQuery : r.method = "GET" ∨ r.method = "DELETE" →
    r.body = .empty ∧ r.url = { url with query := r.url.query } ∧
      r.url.queryPairs = url.queryPairs ++
        ((w.parameters scopes).filter fun e => !e.2.isNull).map fun e =>
          (Text.utf8 e.1.toList, Text.utf8 e.2.shown.toList)
  inBody : r.method ≠ "GET" → r.method ≠ "DELETE" →
    r.url = url ∧ r.body = match w.formParam with
      | some field => .form [(field, (Json.obj (w.parameters scopes)).compact)]
      | none => if w.params.isSome = true ∨ w.parameters scopes ≠ [] then
          .json (.obj (w.parameters scopes)) else .empty

/-- The parameters of a webhook's own are its explicit ones. -/
theorem ownParams_eq : w.ownParams scopes = w.explicitParams scopes := by
  have he : ∀ es, Json.mapEntryTexts (fun s => Template.expand s scopes) es =
      es.map fun e => (e.1, Template.expandValue scopes e.2) := by
    intro es
    induction es with
    | nil => rfl
    | cons e es ih =>
      rw [Json.mapEntryTexts, ih]
      rfl
  unfold ownParams explicitParams
  cases w.params with
  | none => rfl
  | some v =>
    cases v with
    | obj es => exact he es
    | _ => rfl

/-- The parameters that are sent are the parameters. -/
theorem sentParams_eq : w.sentParams scopes = w.parameters scopes := by
  unfold sentParams parameters addedArgs
  rw [ownParams_eq]
  cases w.argsAsParams with
  | false => simp
  | true =>
    cases scopes.get? Scopes.argsName with
    | none => simp
    | some v =>
      cases v with
      | obj args => exact Entries.fill_eq _ _
      | _ => simp

/-- Parameters other than null are sent in the query as they are shown. -/
theorem queryPairs_eq (params : Entries Json) :
    queryPairs params = (params.filter fun e => !e.2.isNull).map fun e => (e.1, e.2.shown) := by
  induction params with
  | nil => rfl
  | cons e es ih =>
    unfold queryPairs at ih ⊢
    rw [List.filterMap_cons, List.filter_cons, Json.display?_eq]
    cases e.2.isNull
    · simp [ih]
    · simp [ih]

/-- The address of a query with parameters. -/
def addressWith (w : Webhook) (scopes : Scopes) (url : Url) : Url :=
  if (w.parameters scopes).isEmpty then url
  else url.appendPairs (queryPairs (w.parameters scopes))

/-- Parameters change the query of an address alone. -/
theorem addressWith_eq :
    w.addressWith scopes url = { url with query := (w.addressWith scopes url).query } := by
  unfold addressWith
  split
  · rfl
  · rfl

/-- The address with the parameters has its own pairs, and then theirs. -/
theorem queryPairs_addressWith : (w.addressWith scopes url).queryPairs = url.queryPairs ++
    ((w.parameters scopes).filter fun e => !e.2.isNull).map fun e =>
      (Text.utf8 e.1.toList, Text.utf8 e.2.shown.toList) := by
  unfold addressWith
  by_cases hp : w.parameters scopes = []
  · simp [hp]
  · rw [if_neg (by simpa using hp), Url.queryPairs_appendPairs, queryPairs_eq, List.map_map]
    rfl

/-- Parameters are sent in the body as a form field or as an object. -/
theorem bodyOf_eq (params : Entries Json) :
    w.bodyOf params = match w.formParam with
      | some field => .form [(field, (Json.obj params).compact)]
      | none => if w.params.isSome = true ∨ params ≠ [] then .json (.obj params) else .empty := by
  unfold bodyOf
  cases w.formParam with
  | some field => rfl
  | none => simp

/-- The parameters of two methods go into the query. -/
theorem isQueryMethod_iff {method : String} :
    isQueryMethod method = true ↔ method = "GET" ∨ method = "DELETE" := by
  simp [isQueryMethod]

/-- **All parameters reach the request, each once.**  For any webhook and scopes with an address
there is a request, unless the method is none; and it carries the parameters, in the query or in the
body, with nothing else about the address changed. -/
theorem prepare_carries (w : Webhook) (scopes : Scopes) :
    match w.address? scopes with
    | none => w.prepare scopes = .error .invalidRequest
    | some url =>
      if Text.isToken (Text.upperAscii w.method) = true then
        ∃ r, w.prepare scopes = .ok r ∧ w.Carries scopes url r
      else w.prepare scopes = .error .invalidRequest := by
  unfold prepare
  rw [sentParams_eq]
  cases w.address? scopes with
  | none => rfl
  | some url =>
    simp only
    by_cases ht : Text.isToken (Text.upperAscii w.method) = true
    · rw [if_pos ht, ht, Bool.not_true, if_neg (by decide)]
      by_cases hm : isQueryMethod (Text.upperAscii w.method) = true
      · rw [if_pos hm]
        refine ⟨_, rfl, rfl, fun _ => ⟨rfl, addressWith_eq, queryPairs_addressWith⟩, fun hg hd => ?_⟩
        exact absurd (isQueryMethod_iff.1 hm) (not_or.2 ⟨hg, hd⟩)
      · rw [if_neg hm]
        exact ⟨_, rfl, rfl, fun h => absurd (isQueryMethod_iff.2 h) hm,
          fun _ _ => ⟨rfl, bodyOf_eq _⟩⟩
    · simp [ht]

/-- A parameter with the marks of a form is appended to a query and leaves the fragment; null is
left out, and so is the argument under the name of the parameter. -/
example :
    let w : Webhook := {
      url := "http://h/x?a=1#f"
      params := some (.obj [("q", .str "${args.q}"), ("n", .null)])
      argsAsParams := true }
    let args : Json := .obj [("q", .str "b&c=d e"), ("p", .arr [.int 3])]
    ((w.prepare (.forInvocation args .null)).toOption.map fun r => r.url.text) =
      some "http://h/x?a=1&q=b%26c%3Dd+e&p=%5B3%5D#f" := by
  decide +kernel

end Webhook
end AgentTool
