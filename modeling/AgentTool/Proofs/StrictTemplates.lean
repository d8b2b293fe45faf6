import AgentTool.Template.Expand
import Mathlib.Data.List.Forall2

/-!
# Strict templates

A text is a strict template if `parse` accepts it.  Then it has one piece for each
token, no marker is left open, and every marker stands for a reference: expanding
it puts in the value of the path, or else the default, or else nothing.
-/

namespace AgentTool

/-- A computation in two steps has a result if both steps have one. -/
theorem Except.bind_eq_ok {ε α β : Type} {x : Except ε α} {f : α → Except ε β} {b : β} :
    x >>= f = .ok b ↔ ∃ a, x = .ok a ∧ f a = .ok b := by
  cases x with
  | error e => exact ⟨nofun, nofun⟩
  | ok a => exact ⟨fun h => ⟨a, rfl, h⟩, by rintro ⟨_, ⟨⟩, h⟩; exact h⟩

/-- A result that is mapped is a result. -/
theorem Except.map_eq_ok {ε α β : Type} {x : Except ε α} {f : α → β} {b : β} :
    x.map f = .ok b ↔ ∃ a, x = .ok a ∧ f a = b := by
  cases x with
  | error e => exact ⟨nofun, nofun⟩
  | ok a => exact ⟨fun h => ⟨a, rfl, Except.ok.inj h⟩, by rintro ⟨_, ⟨⟩, rfl⟩; rfl⟩

/-- A result is there exactly if it is no error. -/
theorem Except.toOption_eq_some {ε α : Type} {x : Except ε α} {a : α} :
    x.toOption = some a ↔ x = .ok a := by
  cases x <;> simp [Except.toOption]

/-- A text occurs in a value, at any depth; keys are not counted. -/
inductive Json.HasText (s : String) : Json → Prop where
  | here : HasText s (.str s)
  | item {v : Json} {items : List Json} : v ∈ items → HasText s v → HasText s (.arr items)
  | entry {k : String} {v : Json} {es : List (String × Json)} :
      (k, v) ∈ es → HasText s v → HasText s (.obj es)

namespace Template

/-- A text that the strict reading accepts. -/
def IsStrict (template : String) : Prop := ∃ pieces, parse template = .ok pieces

/-- A token and the piece that it stands for. -/
def Reads (t : Token) (p : Piece) : Prop := piece t = .ok p

/-- The text that a reference is replaced by, if there is one. -/
def Reference.value? (r : Reference) (scopes : Scopes) : Option String :=
  (scopes.display? r.path).or r.fallback

/-- A text is read as itself. -/
theorem Reads.text {cs : List Char} {p : Piece} (h : Reads (.text cs) p) :
    p = .literal (String.ofList cs) :=
  (Except.ok.inj h).symm

/-- A marker is read as its reference. -/
theorem Reads.marker {body : List Char} {offset : Nat} {p : Piece}
    (h : Reads (.marker body offset) p) : ∃ r, parseMarker body = .ok r ∧ p = .reference r := by
  obtain ⟨r, hr, rfl⟩ := Except.map_eq_ok.1 h
  exact ⟨r, hr, rfl⟩

/-- A marker that is left open is not read. -/
theorem not_reads_unterminated {rest : List Char} {offset : Nat} {p : Piece} :
    ¬Reads (.unterminated rest offset) p := nofun

/-- Tokens have pieces if each of them has one. -/
theorem mapM_piece {ts : List Token} {ps : List Piece} :
    ts.mapM piece = .ok ps ↔ List.Forall₂ Reads ts ps := by
  induction ts generalizing ps with
  | nil =>
    rw [List.mapM_nil, List.forall₂_nil_left_iff]
    exact ⟨fun h => (Except.ok.inj h).symm, fun h => by rw [h]; rfl⟩
  | cons t ts ih =>
    rw [List.mapM_cons, List.forall₂_cons_left_iff, Except.bind_eq_ok]
    constructor
    · rintro ⟨p, hp, h⟩
      obtain ⟨qs, hq, h⟩ := Except.bind_eq_ok.1 h
      exact ⟨p, qs, hp, ih.1 hq, (Except.ok.inj h).symm⟩
    · rintro ⟨p, qs, hp, hq, rfl⟩
      exact ⟨p, hp, Except.bind_eq_ok.2 ⟨qs, ih.2 hq, rfl⟩⟩

/-- The pieces of a strict template stand for its tokens, one for one. -/
theorem parse_eq_ok {template : String} {ps : List Piece} :
    parse template = .ok ps ↔ List.Forall₂ Reads (scan template) ps := mapM_piece

/-- A token that needs no lenience: literal text, or a marker that stands for a reference. -/
inductive Token.IsPlain : Token → Prop where
  | text {cs : List Char} : Token.IsPlain (.text cs)
  | marker {body : List Char} {offset : Nat} {r : Reference} : parseMarker body = .ok r →
      Token.IsPlain (.marker body offset)

/-- A token that the strict reading accepts is plain. -/
theorem Reads.isPlain {t : Token} {p : Piece} (h : Reads t p) : t.IsPlain := by
  cases t with
  | text cs => exact .text
  | marker body offset =>
    obtain ⟨r, hr, -⟩ := h.marker
    exact .marker hr
  | unterminated rest offset => exact absurd h not_reads_unterminated

/-- The tokens of a strict template are plain. -/
theorem IsStrict.plain {template : String} (h : IsStrict template) :
    ∀ t ∈ scan template, t.IsPlain := by
  obtain ⟨ps, hp⟩ := h
  have hr : List.Forall₂ (fun t p => t.IsPlain ∧ Reads t p) (scan template) ps :=
    (parse_eq_ok.1 hp).imp fun _ _ hr => ⟨hr.isPlain, hr⟩
  exact ((List.forall₂_and_left _ _).1 hr).1

/-- A value of which every text is strict. -/
def IsStrictValue (v : Json) : Prop := ∀ s, v.HasText s → IsStrict s

mutual

/-- **A value is checked by checking every text in it.** -/
theorem checkValue_eq_ok : (v : Json) → (checkValue v = .ok () ↔ IsStrictValue v)
  | .null | .bool _ | .int _ | .float _ => ⟨fun _ _ => nofun, fun _ => rfl⟩
  | .str s => by
    rw [checkValue, Except.map_eq_ok]
    constructor
    · rintro ⟨ps, h, -⟩ _ ⟨⟩
      exact ⟨ps, h⟩
    · intro h
      obtain ⟨ps, hs⟩ := h s .here
      exact ⟨ps, hs, rfl⟩
  | .arr items => by
    rw [checkValue, checkItems_eq_ok items]
    constructor
    · rintro h s (_ | ⟨hv, hs⟩)
      exact h _ hv s hs
    · exact fun h v hv s hs => h s (.item hv hs)
  | .obj es => by
    rw [checkValue, checkEntries_eq_ok es]
    constructor
    · rintro h s (_ | _ | ⟨he, hs⟩)
      exact h _ he s hs
    · exact fun h e he s hs => h s (.entry he hs)

/-- The templates of a list are strict exactly if those of its items are. -/
theorem checkItems_eq_ok : (vs : List Json) →
    (checkItems vs = .ok () ↔ ∀ v ∈ vs, IsStrictValue v)
  | [] => ⟨fun _ => by simp, fun _ => rfl⟩
  | v :: vs => by
    rw [checkItems, Except.bind_eq_ok, List.forall_mem_cons]
    constructor
    · rintro ⟨_, hv, hvs⟩
      exact ⟨(checkValue_eq_ok v).1 hv, (checkItems_eq_ok vs).1 hvs⟩
    · rintro ⟨hv, hvs⟩
      exact ⟨(), (checkValue_eq_ok v).2 hv, (checkItems_eq_ok vs).2 hvs⟩

/-- The templates of an object are strict exactly if those of its values are. -/
theorem checkEntries_eq_ok : (es : List (String × Json)) →
    (checkEntries es = .ok () ↔ ∀ e ∈ es, IsStrictValue e.2)
  | [] => ⟨fun _ => by simp, fun _ => rfl⟩
  | (k, v) :: es => by
    rw [checkEntries, Except.bind_eq_ok, List.forall_mem_cons]
    constructor
    · rintro ⟨_, hv, hes⟩
      exact ⟨(checkValue_eq_ok v).1 hv, (checkEntries_eq_ok es).1 hes⟩
    · rintro ⟨hv, hes⟩
      exact ⟨(), (checkValue_eq_ok v).2 hv, (checkEntries_eq_ok es).2 hes⟩

end

/-- A reference is read along the path that its text stands for, and its default is the one that the
strict reading takes. -/
theorem of_parseMarker {body : List Char} {r : Reference} (h : parseMarker body = .ok r) :
    r.text = String.ofList (Text.trim (splitDefault none body).1) ∧
      Path.parse? r.text = some r.path ∧
      match (splitDefault none body).2 with
      | none => r.fallback = none
      | some raw => ∃ value, parseDefault raw = .ok value ∧ r.fallback = some value := by
  unfold parseMarker at h
  generalize splitDefault none body = cut at h ⊢
  obtain ⟨left, default?⟩ := cut
  cases hp : Path.parse? (String.ofList (Text.trim left)) with
  | none => simp [hp] at h
  | some path =>
    cases default? with
    | none =>
      simp only [hp] at h
      obtain rfl := Except.ok.inj h
      exact ⟨rfl, hp, rfl⟩
    | some raw =>
      simp only [hp] at h
      cases hd : parseDefault raw with
      | error f => simp [hd] at h
      | ok value =>
        simp only [hd] at h
        obtain rfl := Except.ok.inj h
        exact ⟨rfl, hp, value, hd, rfl⟩

/-- A marker that stands for a reference expands to the value of its path or to its default. -/
theorem markerText_eq {body : List Char} {r : Reference} (h : parseMarker body = .ok r)
    (scopes : Scopes) : markerText scopes body = r.value? scopes := by
  obtain ⟨ht, hp, hd⟩ := of_parseMarker h
  unfold markerText Reference.value?
  generalize splitDefault none body = cut at ht hd ⊢
  obtain ⟨left, default?⟩ := cut
  simp only at ht hd ⊢
  rw [← ht, hp, Option.bind_some]
  cases default? with
  | none =>
    rw [hd]
    cases scopes.display? r.path <;> rfl
  | some raw =>
    obtain ⟨value, hv, hf⟩ := hd
    have hl : lenientDefault raw = value := by rw [lenientDefault, hv]
    rw [hf]
    cases scopes.display? r.path with
    | none => exact congrArg some hl
    | some text => rfl

end Template
end AgentTool
