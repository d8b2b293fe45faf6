import AgentTool.Proofs.TextLaws
import AgentTool.Proofs.WellFormed
import AgentTool.Tool.Compile

/-!
# The compiler accepts the well-formed documents

Each check passes exactly if its part of the document is well formed, so a
document becomes a tool exactly if it is well formed as a whole.
-/

namespace AgentTool
namespace Check

/-! ## Checks in sequence -/

/-- Two checks in sequence pass if both pass. -/
theorem seq_eq_ok {check : Result} {next : Unit → Result} :
    check >>= next = .ok () ↔ check = .ok () ∧ next () = .ok () := by
  rw [Except.bind_eq_ok]
  exact ⟨fun ⟨_, h⟩ => h, fun h => ⟨(), h⟩⟩

/-- A condition is ensured exactly if it holds. -/
theorem ensure_eq_ok {holds : Bool} {e : DefinitionError} :
    ensure holds e = .ok () ↔ holds = true := by
  unfold ensure
  split
  · exact iff_of_true rfl ‹_›
  · exact iff_of_false nofun ‹_›

/-- A condition is met exactly if it holds. -/
theorem demand_eq_ok {holds : Bool} {message : String} :
    demand holds message = .ok () ↔ holds = true := ensure_eq_ok

/-- An absent part passes. -/
theorem ifAny_eq_ok {α : Type} {check : α → Result} {P : α → Prop}
    (h : ∀ a, check a = .ok () ↔ P a) (o : Option α) :
    ifAny check o = .ok () ↔ ∀ a, o = some a → P a := by
  cases o with
  | none => exact iff_of_true rfl nofun
  | some a => rw [ifAny, h]; exact ⟨fun ha b hb => Option.some.inj hb ▸ ha, fun ha => ha a rfl⟩

/-- A check of each item passes exactly if every item passes, whichever index the first one has. -/
theorem eachFrom_eq_ok {α : Type} {check : Nat → α → Result} {P : α → Prop}
    (h : ∀ i a, check i a = .ok () ↔ P a) (i : Nat) (as : List α) :
    eachFrom check i as = .ok () ↔ ∀ a ∈ as, P a := by
  induction as generalizing i with
  | nil => exact iff_of_true rfl (by simp)
  | cons a as ih => rw [eachFrom, seq_eq_ok, h, ih, List.forall_mem_cons]

/-- A list passes if each item does, wherever it stands. -/
theorem each_eq_ok {α : Type} {check : Nat → α → Result} {P : α → Prop}
    (h : ∀ i a, check i a = .ok () ↔ P a) (as : List α) :
    each check as = .ok () ↔ ∀ a ∈ as, P a := eachFrom_eq_ok h 0 as

/-- A computation in two steps has some result if the second step has one after the first. -/
theorem exists_bind_eq_ok {α β : Type} {x : Except DefinitionError α}
    {f : α → Except DefinitionError β} :
    (∃ b, x >>= f = .ok b) ↔ ∃ a, x = .ok a ∧ ∃ b, f a = .ok b := by
  simp only [Except.bind_eq_ok]
  exact ⟨fun ⟨b, a, ha, hb⟩ => ⟨a, ha, b, hb⟩, fun ⟨a, ha, b, hb⟩ => ⟨b, a, ha, hb⟩⟩

/-- What follows a check has a result if the check passes and it has one by itself. -/
theorem exists_seq_eq_ok {α : Type} {check : Result} {next : Unit → Except DefinitionError α} :
    (∃ a, check >>= next = .ok a) ↔ check = .ok () ∧ ∃ a, next () = .ok a := by
  rw [exists_bind_eq_ok]
  exact ⟨fun ⟨_, h⟩ => h, fun h => ⟨(), h⟩⟩

/-- To check what is made of the items is to check the items for what is made of them. -/
theorem eachFrom_map {α β : Type} {check : Nat → β → Result} {f : α → β} (i : Nat) (as : List α) :
    eachFrom check i (as.map f) = eachFrom (fun i a => check i (f a)) i as := by
  induction as generalizing i with
  | nil => rfl
  | cons a as ih => rw [List.map_cons, eachFrom, eachFrom, ih]

/-- To check what is made of the items is to check the items for what is made of them. -/
theorem each_map {α β : Type} {check : Nat → β → Result} {f : α → β} (as : List α) :
    each check (as.map f) = each (fun i a => check i (f a)) as := eachFrom_map 0 as

/-! ## Items that differ -/

section Apart

variable {α : Type} {R : α → α → Prop} {before as : List α} {a : α}

/-- Every item is related to by the items in front of it, those of `before` included. -/
def Apart (R : α → α → Prop) (before as : List α) : Prop :=
  as.Pairwise R ∧ ∀ a ∈ as, ∀ b ∈ before, R b a

/-- No items are apart from any others. -/
theorem apart_nil : Apart R before [] := ⟨.nil, by simp⟩

/-- Items are apart from none exactly if they are apart from each other. -/
theorem apart_from_nil : Apart R [] as ↔ as.Pairwise R := by simp [Apart]

/-- The items of a list are taken one by one, each into those before the rest. -/
theorem apart_cons :
    Apart R before (a :: as) ↔ (∀ b ∈ before, R b a) ∧ Apart R (a :: before) as := by
  unfold Apart
  rw [List.pairwise_cons, List.forall_mem_cons]
  simp only [List.forall_mem_cons]
  constructor
  · rintro ⟨⟨hh, hd⟩, hn, hns⟩
    exact ⟨hn, hd, fun u hu => ⟨hh u hu, hns u hu⟩⟩
  · rintro ⟨hn, hd, hns⟩
    exact ⟨⟨fun u hu => (hns u hu).1, hd⟩, hn, fun u hu => (hns u hu).2⟩

/-- A name has not been seen if it differs from all that have. -/
theorem contains_eq_false {seen : List String} {name : String} :
    seen.contains name = false ↔ ∀ b ∈ seen, b ≠ name := by
  rw [← Bool.not_eq_true, List.contains_iff_mem]
  exact ⟨fun h b hb he => h (he ▸ hb), fun h hm => h name hm rfl⟩

end Apart

/-! ## Texts -/

/-- The test of a plain name tells the plain names. -/
theorem isPlainName_iff {s : String} : isPlainName s = true ↔ IsPlainName s := by
  simp [isPlainName, IsPlainName]

/-- The check of a template passes the strict templates. -/
theorem template_eq_ok {text path : String} : template text path = .ok () ↔ Template.IsStrict text := by
  unfold template Template.IsStrict
  cases Template.parse text with
  | ok ps => exact iff_of_true rfl ⟨ps, rfl⟩
  | error e => exact iff_of_false nofun (by simp)

/-- The check of the templates of a value passes the values whose templates are all strict. -/
theorem templates_eq_ok {v : Json} {path : String} :
    templates v path = .ok () ↔ Template.IsStrictValue v := by
  rw [← Template.checkValue_eq_ok]
  unfold templates
  cases Template.checkValue v with
  | ok _ => exact iff_of_true rfl rfl
  | error e => exact iff_of_false nofun nofun

/-- Nothing but a character that is no letter becomes that character in lower case. -/
theorem toLower_eq_iff {c d : Char} (hd : d.isAlpha = false) : c.toLower = d ↔ c = d := by
  have hl : d.isUpper = false ∧ d.isLower = false := Bool.or_eq_false_iff.1 hd
  unfold Char.toLower
  split
  · rename_i h
    have hu : c.isUpper = true := decide_eq_true h
    refine iff_of_false ?_ ?_
    · rintro rfl
      -- an upper-case letter becomes a lower-case one
      have hn := Bool.and_eq_false_imp.1 hl.2
      simp [UInt32.le_iff_toNat_le] at h hn
      omega
    · rintro rfl
      rw [hu] at hl
      cases hl.1
  · rfl

/-- A marker opens a text exactly if it opens the text in lower case. -/
theorem marker_prefix_toLower {cs : List Char} :
    ['$', '{'] <+: cs.map Char.toLower ↔ ['$', '{'] <+: cs := by
  rcases cs with _ | ⟨c, _ | ⟨d, cs⟩⟩
  · simp
  · simp [List.cons_prefix_cons]
  · simp only [List.map_cons, List.cons_prefix_cons, List.nil_prefix, and_true]
    rw [eq_comm, toLower_eq_iff (by decide), eq_comm, eq_comm (a := '{'),
      toLower_eq_iff (by decide), eq_comm (a := d)]

/-- The check of an address passes the addresses. -/
theorem address_eq_ok {url path : String} : address url path = .ok () ↔ IsAddress url := by
  unfold address
  simp only [seq_eq_ok, demand_eq_ok, template_eq_ok, Bool.or_eq_true, Text.dropLead?_isSome]
  rw [show "$\x7b".toList = ['$', '{'] from rfl, marker_prefix_toLower, or_assoc]
  constructor
  · rintro ⟨-, ho, hs⟩
    exact ⟨ho, hs⟩
  · rintro ⟨ho, hs⟩
    refine ⟨?_, ho, hs⟩
    cases ht : Text.trim url.toList with
    | nil => simp [ht, OpensAddress] at ho
    | cons c cs => rfl

/-- The check of a path passes the texts of paths. -/
theorem valuePath_eq_ok {text path : String} : valuePath text path = .ok () ↔ IsPathText text := by
  unfold valuePath IsPathText
  cases Path.parse text with
  | ok p => exact iff_of_true rfl ⟨p, rfl⟩
  | error e => exact iff_of_false nofun (by simp)

/-- The check of error keys passes lists of texts of paths. -/
theorem errorKeys_eq_ok {keys : List String} {path : String} :
    errorKeys keys path = .ok () ↔ ∀ key ∈ keys, IsPathText key := by
  unfold errorKeys
  exact each_eq_ok (P := IsPathText) (fun _ _ => valuePath_eq_ok) keys

/-! ## Outputs and rules -/

/-- The check of an object of templates passes the objects whose templates are all strict. -/
theorem templateObject_eq_ok {v : Json} {path : String} :
    templateObject v path = .ok () ↔ IsTemplateObject v := by
  unfold templateObject
  rw [seq_eq_ok, demand_eq_ok, templates_eq_ok]
  exact ⟨fun ⟨ho, hs⟩ => ⟨ho, hs⟩, fun ⟨ho, hs⟩ => ⟨ho, hs⟩⟩

/-- The check of an output passes the well-formed outputs. -/
theorem output_eq_ok {o : Output} {path : String} : output o path = .ok () ↔ o.WellFormed := by
  unfold output
  rw [seq_eq_ok]
  have ha := each_eq_ok (P := IsTemplateObject) (fun i a =>
    @templateObject_eq_ok a s!"{path}.action[{i}]") o.actions
  refine (and_congr template_eq_ok ha).trans ?_
  exact ⟨fun ⟨hr, ha⟩ => ⟨hr, ha⟩, fun ⟨hr, ha⟩ => ⟨hr, ha⟩⟩

/-- The check of a required output passes exactly if there is one and it is well formed. -/
theorem outputRequired_eq_ok {o : Option Output} {path : String} :
    outputRequired o path = .ok () ↔ ∃ out, o = some out ∧ out.WellFormed := by
  unfold outputRequired
  cases o with
  | none => exact iff_of_false nofun nofun
  | some out => simp [output_eq_ok]

/-- The texts of a rule pass, whatever its pattern is besides not empty. -/
theorem rule_eq_ok {r : Rule} {path : String} :
    rule r path = .ok () ↔ IsVisible r.subject ∧ r.pattern ≠ "" ∧ Template.IsStrict r.subject ∧
      r.output.WellFormed ∧ ∀ o, r.otherwise = some o → o.WellFormed := by
  unfold rule
  rw [seq_eq_ok, seq_eq_ok, seq_eq_ok, seq_eq_ok, demand_eq_ok, demand_eq_ok, template_eq_ok,
    output_eq_ok, Bool.not_eq_true', isBlankString_eq_false]
  refine and_congr Iff.rfl (and_congr (by simp) (and_congr Iff.rfl (and_congr Iff.rfl ?_)))
  exact ifAny_eq_ok (fun _ => output_eq_ok) _

/-! ## Webhooks -/

/-- The check of a repetition passes the well-formed repetitions. -/
theorem foreach_eq_ok {f : Foreach} {path : String} :
    foreach f path = .ok () ↔ f.WellFormed := by
  unfold foreach
  rw [show reservedNames = ["args", "response", "global", "global_data", "this", "array", "foreach"]
    from rfl]
  rw [seq_eq_ok, seq_eq_ok, seq_eq_ok, seq_eq_ok, seq_eq_ok, valuePath_eq_ok, demand_eq_ok,
    demand_eq_ok, demand_eq_ok, demand_eq_ok, isPlainName_iff, template_eq_ok]
  constructor
  · rintro ⟨hi, ho, hf, hm, hn, ha⟩
    exact ⟨hi, ho, by simpa using hf, by simpa using hm, by simpa using hn, ha⟩
  · rintro ⟨hi, ho, hf, hm, hn, ha⟩
    exact ⟨hi, ho, by simpa using hf, by simpa using hm, by simpa using hn, ha⟩

/-- The check of headers passes names of fields that differ but for case, with strict templates. -/
theorem headers_eq_ok {path : String} {seen : List String} {hs : Entries String} :
    headers path seen hs = .ok () ↔
      (∀ h ∈ hs, Text.isFieldName h.1 = true) ∧ (∀ h ∈ hs, Template.IsStrict h.2) ∧
        Apart (· ≠ ·) seen (hs.map fun h => Text.lowerAscii h.1) := by
  induction hs generalizing seen with
  | nil => exact iff_of_true rfl ⟨by simp, by simp, apart_nil⟩
  | cons h hs ih =>
    rw [headers, seq_eq_ok, seq_eq_ok, seq_eq_ok, demand_eq_ok, ensure_eq_ok, template_eq_ok, ih,
      List.forall_mem_cons, List.forall_mem_cons, List.map_cons, apart_cons, Bool.not_eq_true',
      contains_eq_false]
    constructor
    · rintro ⟨hn, hs, hv, hns, hvs, hd⟩
      exact ⟨⟨hn, hns⟩, ⟨hv, hvs⟩, hs, hd⟩
    · rintro ⟨⟨hn, hns⟩, ⟨hv, hvs⟩, hs, hd⟩
      exact ⟨hn, hs, hv, hns, hvs, hd⟩

/-- The check of the name of a form field passes the names that show something. -/
theorem formParam_eq_ok {field : Option String} {path : String} :
    ifAny (fun f => demand (!Text.isBlankString f) s!"{path}.form_param must not be empty") field =
      .ok () ↔ ∀ f, field = some f → IsVisible f := by
  refine ifAny_eq_ok (P := IsVisible) (fun f => ?_) field
  rw [demand_eq_ok, Bool.not_eq_true', isBlankString_eq_false]

/-- The check of required arguments passes declared ones. -/
theorem requireArgs_eq_ok {args declared : List String} {path : String} :
    each (fun i arg => demand (declared.contains arg)
      s!"{path}.require_args[{i}] names undeclared parameter '{arg}'") args = .ok () ↔
        ∀ a ∈ args, a ∈ declared := by
  refine each_eq_ok (P := (· ∈ declared)) (fun i arg => ?_) args
  rw [demand_eq_ok, List.contains_iff_mem]

/-- **A webhook whose method is trimmed and in upper case passes exactly if it is well formed.** -/
theorem webhook_eq_ok {w : Webhook} {path : String} {declared : List String} :
    webhook w.normalized path declared = .ok () ↔ w.WellFormed declared := by
  have hm : methods.contains w.normalized.method = true ↔
      Text.upperAscii (Text.trimString w.method) ∈ ["GET", "POST", "PUT", "PATCH", "DELETE"] :=
    List.contains_iff_mem
  have hp := ifAny_eq_ok (P := IsTemplateObject) (fun v =>
    @templateObject_eq_ok v s!"{path}.params") w.params
  have he := ifAny_eq_ok (P := Foreach.WellFormed) (fun f =>
    @foreach_eq_ok f s!"{path}.foreach") w.foreach
  unfold webhook
  rw [seq_eq_ok, seq_eq_ok, seq_eq_ok, seq_eq_ok, seq_eq_ok, seq_eq_ok, seq_eq_ok, seq_eq_ok,
    address_eq_ok, demand_eq_ok, headers_eq_ok, formParam_eq_ok, requireArgs_eq_ok,
    outputRequired_eq_ok, errorKeys_eq_ok, hm]
  dsimp only [Webhook.normalized]
  rw [hp, he]
  constructor
  · rintro ⟨url, method, ⟨names, values, distinct⟩, params, field, args, iteration, output, keys⟩
    exact ⟨url, method, names, apart_from_nil.1 distinct, values, params, field, args, iteration,
      output, keys⟩
  · rintro ⟨url, method, names, distinct, values, params, field, args, iteration, output, keys⟩
    exact ⟨url, method, ⟨names, values, apart_from_nil.2 distinct⟩, params, field, args, iteration,
      output, keys⟩

/-! ## Parameters -/

/-- The check of choices passes values of the type of the property that differ. -/
theorem choices_eq_ok {p : Property} {path : String} {before : List Json} {i : Nat}
    {vs : List Json} :
    choices p path before i vs = .ok () ↔ (∀ v ∈ vs, p.type.accepts v = true) ∧
      Apart (fun earlier v => v.same earlier = false) before vs := by
  induction vs generalizing before i with
  | nil => exact iff_of_true rfl ⟨by simp, apart_nil⟩
  | cons v vs ih =>
    have hb : (!before.contains v) = true ↔ ∀ earlier ∈ before, v.same earlier = false := by
      rw [Bool.not_eq_true', List.contains_eq_any_beq, List.any_eq_false]
      exact forall₂_congr fun _ _ => by rw [Bool.not_eq_true]; rfl
    rw [choices, seq_eq_ok, seq_eq_ok, demand_eq_ok, ensure_eq_ok, ih, List.forall_mem_cons,
      apart_cons, hb]
    constructor
    · rintro ⟨ht, hn, hts, hd⟩
      exact ⟨⟨ht, hts⟩, hn, hd⟩
    · rintro ⟨⟨ht, hts⟩, hn, hd⟩
      exact ⟨ht, hn, hts, hd⟩

/-- Listed values pass if there is one, all have the type, and none equals an earlier one. -/
theorem listed_eq_ok {p : Property} {path : String} :
    ifAny (fun values => do
        demand (!values.isEmpty) s!"{path}.enum must not be empty"
        choices p path [] 0 values) p.choices = .ok () ↔
      ∀ vs, p.choices = some vs → vs ≠ [] ∧ (∀ v ∈ vs, p.type.accepts v = true) ∧
        vs.Pairwise fun earlier v => v.same earlier = false := by
  refine ifAny_eq_ok (fun vs => ?_) p.choices
  rw [seq_eq_ok, demand_eq_ok, choices_eq_ok, apart_from_nil]
  simp

/-- The check of a default passes values of the type of the property. -/
theorem standard_eq_ok {p : Property} {path : String} :
    ifAny (fun v => demand (p.type.accepts v)
        s!"{path}.default ({v.compact}) is not of type {p.type.name}") p.standard = .ok () ↔
      ∀ v, p.standard = some v → p.type.accepts v = true :=
  ifAny_eq_ok (fun _ => demand_eq_ok) p.standard

/-- The check of a property passes the well-formed properties with a plain name. -/
theorem property_eq_ok {name : String} {p : Property} :
    property name p = .ok () ↔ IsPlainName name ∧ p.WellFormed := by
  unfold property
  rw [seq_eq_ok, seq_eq_ok, demand_eq_ok, isPlainName_iff, listed_eq_ok, standard_eq_ok]
  constructor
  · rintro ⟨hn, hvs, hv⟩
    exact ⟨hn, fun h => (hvs [] h).1 rfl, fun vs h => (hvs vs h).2.1, fun vs h => (hvs vs h).2.2, hv⟩
  · rintro ⟨hn, hne, ht, hd, hv⟩
    exact ⟨hn, fun vs h => ⟨fun he => hne (he ▸ h), ht vs h, hd vs h⟩, hv⟩

/-- A name is declared if it is the key of an entry. -/
theorem get?_isSome {α : Type} {name : String} {es : Entries α} :
    (Entries.get? name es).isSome = true ↔ name ∈ Entries.keys es := by
  unfold Entries.keys
  induction es with
  | nil => simp [Entries.get?]
  | cons e es ih =>
    rw [Entries.get?]
    split
    · rename_i he
      simp [he]
    · rename_i he
      simp [ih, Ne.symm he]

/-- The check of required names passes names of properties that differ. -/
theorem required_eq_ok {ps : Entries Property} {seen : List String} {i : Nat}
    {names : List String} :
    required ps seen i names = .ok () ↔
      (∀ name ∈ names, name ∈ Entries.keys ps) ∧ Apart (· ≠ ·) seen names := by
  induction names generalizing seen i with
  | nil => exact iff_of_true rfl ⟨by simp, apart_nil⟩
  | cons name names ih =>
    rw [required, seq_eq_ok, seq_eq_ok, demand_eq_ok, get?_isSome, ensure_eq_ok, ih,
      List.forall_mem_cons, apart_cons, Bool.not_eq_true', contains_eq_false]
    constructor
    · rintro ⟨hm, hs, hms, hd⟩
      exact ⟨⟨hm, hms⟩, hs, hd⟩
    · rintro ⟨⟨hm, hms⟩, hs, hd⟩
      exact ⟨hm, hs, hms, hd⟩

/-- No name is repeated exactly if the names are apart from those seen before. -/
theorem firstRepeatedFrom?_eq_none {seen names : List String} :
    Entries.firstRepeatedFrom? seen names = none ↔ Apart (· ≠ ·) seen names := by
  induction names generalizing seen with
  | nil => exact iff_of_true rfl apart_nil
  | cons name names ih =>
    rw [Entries.firstRepeatedFrom?, apart_cons, ← contains_eq_false]
    split
    · rename_i hs
      rw [hs]
      exact iff_of_false nofun fun h => nomatch h.1
    · rename_i hs
      rw [Bool.not_eq_true] at hs
      rw [ih]
      exact (and_iff_right hs).symm

/-- No key is repeated exactly if the keys differ. -/
theorem firstRepeated?_eq_none {α : Type} {es : Entries α} :
    Entries.firstRepeated? es = none ↔ (Entries.keys es).Nodup := by
  rw [Entries.firstRepeated?, firstRepeatedFrom?_eq_none]
  exact apart_from_nil

/-- The check for repeated parameters passes exactly if their names differ. -/
theorem distinct_eq_ok {tool : String} {es : Entries Property} :
    ifAny (fun name => .error (.duplicate "parameter" name
        (some s!"Parameter names of tool '{tool}' must be unique"))) (Entries.firstRepeated? es) =
      .ok () ↔ (Entries.keys es).Nodup := by
  rw [ifAny_eq_ok (P := fun _ => False) (fun _ => by simp), ← firstRepeated?_eq_none]
  exact Option.eq_none_iff_forall_ne_some.symm

/-- The check of the parameters passes the well-formed parameters. -/
theorem parameters_eq_ok {tool : String} {p : Parameters} :
    parameters tool p = .ok () ↔ p.WellFormed := by
  have hp := each_eq_ok (P := fun e => IsPlainName e.1 ∧ e.2.WellFormed) (fun _ e =>
    @property_eq_ok e.1 e.2) p.properties
  unfold parameters
  rw [seq_eq_ok, seq_eq_ok, seq_eq_ok, demand_eq_ok, distinct_eq_ok, required_eq_ok, hp]
  constructor
  · rintro ⟨ht, hn, ⟨hr, hrd⟩, hes⟩
    exact ⟨by simpa using ht, hn, hr, apart_from_nil.1 hrd, fun e he => (hes e he).1,
      fun e he => (hes e he).2⟩
  · rintro ⟨ht, hn, hr, hrd, hes, hw⟩
    exact ⟨by simpa using ht, hn, ⟨hr, apart_from_nil.2 hrd⟩, fun e he => ⟨hes e he, hw e he⟩⟩

/-- The check of the name of a tool passes the texts without blanks that are not empty. -/
theorem name_eq_ok {s : String} :
    name s = .ok () ↔ s ≠ "" ∧ ∀ c ∈ s.toList, Text.isBlank c = false := by
  unfold name
  rw [seq_eq_ok, demand_eq_ok, demand_eq_ok, Bool.not_eq_true', isBlankString_eq_false]
  have ha : (!s.toList.any Text.isBlank) = true ↔ ∀ c ∈ s.toList, Text.isBlank c = false := by
    simp
  rw [ha]
  constructor
  · rintro ⟨⟨c, hc, -⟩, h⟩
    exact ⟨fun he => by simp [he] at hc, h⟩
  · rintro ⟨hn, h⟩
    obtain ⟨c, hc⟩ := List.exists_mem_of_ne_nil s.toList (by simpa using hn)
    exact ⟨⟨c, hc, h c hc⟩, h⟩

end Check

namespace Compile

open Check

/-- A rule is made ready exactly if its pattern compiles. -/
theorem ofRule_eq_ok {r : Rule} {path : String} :
    (∃ ready, ReadyRule.ofRule r path = .ok ready) ↔ ∃ regex, Pattern.compile r.pattern = .ok regex := by
  unfold ReadyRule.ofRule
  cases Pattern.compile r.pattern with
  | ok regex => exact iff_of_true ⟨_, rfl⟩ ⟨_, rfl⟩
  | error e => simp

/-- The rules become ready exactly if all of them are well formed. -/
theorem rules_eq_ok {i : Nat} {rs : List Rule} :
    (∃ m, rules i rs = .ok m) ↔ ∀ r ∈ rs, r.WellFormed := by
  induction rs generalizing i with
  | nil => exact iff_of_true ⟨[], rfl⟩ (by simp)
  | cons r rs ih =>
    rw [rules, exists_seq_eq_ok, rule_eq_ok, List.forall_mem_cons, ← ih (i := i + 1)]
    constructor
    · rintro ⟨⟨hv, hp, hs, ho, hn⟩, m, h⟩
      obtain ⟨ready, hr, h⟩ := Except.bind_eq_ok.1 h
      obtain ⟨rest, hrest, -⟩ := Except.bind_eq_ok.1 h
      exact ⟨⟨hv, hs, hp, ofRule_eq_ok.1 ⟨ready, hr⟩, ho, hn⟩, rest, hrest⟩
    · rintro ⟨⟨hv, hs, hp, hc, ho, hn⟩, rest, hrest⟩
      obtain ⟨ready, hr⟩ := ofRule_eq_ok.2 hc
      exact ⟨⟨hv, hp, hs, ho, hn⟩, ready :: rest,
        Except.bind_eq_ok.2 ⟨ready, hr, Except.bind_eq_ok.2 ⟨rest, hrest, rfl⟩⟩⟩

/-- The check of the webhooks, as they are sent, passes the well-formed webhooks. -/
theorem webhooks_eq_ok {declared : List String} {hs : List Webhook} :
    each (fun i w => webhook w s!"data_map.webhooks[{i}]" declared) (hs.map Webhook.normalized) =
      .ok () ↔ ∀ w ∈ hs, w.WellFormed declared := by
  rw [each_map]
  exact each_eq_ok (P := (Webhook.WellFormed declared)) (fun _ _ => webhook_eq_ok) hs

/-- A data map becomes ready exactly if it is well formed. -/
theorem dataMap_eq_ok {tool : String} {m : DataMap} {declared : List String} :
    (∃ ready, dataMap tool m.normalized declared = .ok ready) ↔ m.WellFormed declared := by
  have hn : (!(m.rules.isEmpty && (m.webhooks.map Webhook.normalized).isEmpty)) = true ↔
      m.rules ≠ [] ∨ m.webhooks ≠ [] := by
    simp
  have ho := ifAny_eq_ok (P := Output.WellFormed) (fun o =>
    @output_eq_ok o "data_map.output") m.fallback
  unfold dataMap
  dsimp only [DataMap.normalized]
  rw [exists_seq_eq_ok, demand_eq_ok, hn, exists_bind_eq_ok]
  simp only [exists_seq_eq_ok, webhooks_eq_ok, ho, errorKeys_eq_ok]
  constructor
  · rintro ⟨hne, matcher, hm, hw, hf, hk, -⟩
    exact ⟨hne, rules_eq_ok.1 ⟨matcher, hm⟩, hw, hf, hk⟩
  · rintro ⟨hne, hr, hw, hf, hk⟩
    obtain ⟨matcher, hm⟩ := (rules_eq_ok (i := 0)).2 hr
    exact ⟨hne, matcher, hm, hw, hf, hk, _, rfl⟩

/-- A document has a way to run exactly if it has one of the two, and that is well formed. -/
theorem runtime_eq_ok {d : Document} :
    (∃ r, runtime d.normalized = .ok r) ↔ d.Runs := by
  unfold runtime Document.normalized
  cases hm : d.dataMap with
  | none =>
    cases hu : d.webhookUrl with
    | none =>
      refine iff_of_false (fun ⟨_, h⟩ => nomatch h) ?_
      rintro (⟨h, -, -⟩ | ⟨-, h, -⟩)
      · cases hm.symm.trans h
      · cases hu.symm.trans h
    | some url =>
      refine exists_seq_eq_ok.trans ?_
      rw [address_eq_ok]
      constructor
      · rintro ⟨ha, -⟩
        exact .localWebhook hm hu ha
      · rintro (⟨h, -, -⟩ | ⟨-, h, ha⟩)
        · cases hm.symm.trans h
        · obtain rfl := Option.some.inj (hu.symm.trans h)
          exact ⟨ha, _, rfl⟩
  | some m =>
    cases hu : d.webhookUrl with
    | none =>
      refine exists_bind_eq_ok.trans ?_
      constructor
      · rintro ⟨ready, h, -⟩
        exact .dataMap hm hu (dataMap_eq_ok.1 ⟨ready, h⟩)
      · rintro (⟨h, -, hw⟩ | ⟨h, -, -⟩)
        · obtain rfl := Option.some.inj (hm.symm.trans h)
          obtain ⟨ready, hr⟩ := dataMap_eq_ok.2 hw
          exact ⟨ready, hr, _, rfl⟩
        · cases hm.symm.trans h
    | some url =>
      refine iff_of_false (fun ⟨_, h⟩ => nomatch h) ?_
      rintro (⟨-, h, -⟩ | ⟨h, -, -⟩)
      · cases hu.symm.trans h
      · cases hm.symm.trans h

end Compile

/-- What has become a tool is well formed. -/
theorem Document.wellFormed_of_compile {d : Document} {instanceKey : Option String} {t : Tool}
    (h : d.compile instanceKey = .ok t) : d.WellFormed := by
  obtain ⟨_, hn, h⟩ := Except.bind_eq_ok.1 h
  obtain ⟨_, hp, h⟩ := Except.bind_eq_ok.1 h
  obtain ⟨r, hr, -⟩ := Except.bind_eq_ok.1 h
  exact ⟨Check.name_eq_ok.1 hn, Check.parameters_eq_ok.1 hp, Compile.runtime_eq_ok.1 ⟨r, hr⟩⟩

/-- **The compiler accepts exactly the well-formed documents.** -/
theorem Document.compile_ok_iff (d : Document) (instanceKey : Option String) :
    (∃ tool, d.compile instanceKey = .ok tool) ↔ d.WellFormed := by
  unfold Document.compile
  rw [Check.exists_seq_eq_ok, Check.name_eq_ok, Check.exists_seq_eq_ok, Check.parameters_eq_ok,
    Check.exists_bind_eq_ok]
  constructor
  · rintro ⟨hn, hp, r, hr, -⟩
    exact ⟨hn, hp, Compile.runtime_eq_ok.1 ⟨r, hr⟩⟩
  · rintro ⟨hn, hp, hr⟩
    obtain ⟨r, hr⟩ := Compile.runtime_eq_ok.2 hr
    exact ⟨hn, hp, r, hr, _, rfl⟩

end AgentTool
