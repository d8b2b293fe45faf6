import AgentTool.Proofs.PercentLaws
import AgentTool.Proofs.StrictTemplates

/-!
# The structure of expanded addresses

Unless a marker is put in verbatim, what an address template expands to has the
delimiters of the template's own text, whatever the values are; and each value can
be read back from the place where it was put in.

| encoding | put in | read back |
| --- | --- | --- |
| verbatim | the value | as it is |
| path segment | `Text.encodeSegment` | `Text.segmentBytes` |
| query | `Text.encodeForm` | `Text.formBytes` |
-/

namespace AgentTool
namespace Template

/-- The bytes of a text that was put into an address. -/
def Encoding.bytes : Encoding → List Char → List UInt8
  | .verbatim => Text.utf8
  | .pathSegment => Text.segmentBytes
  | .query => Text.formBytes

/-- The references of tokens behind the literal text `literal`, each with its encoding. -/
def encodedReferences (literal : List Char) : List Token → List (Encoding × Reference)
  | [] => []
  | .text cs :: ts => encodedReferences (literal ++ cs) ts
  | .unterminated _ _ :: ts => encodedReferences literal ts
  | .marker body offset :: ts =>
    match parseMarker body with
    | .ok r => (Encoding.forUrl literal offset, r) :: encodedReferences literal ts
    | .error _ => encodedReferences literal ts

/-- The reference of a piece that is one. -/
def Piece.reference? : Piece → Option Reference
  | .literal _ => none
  | .reference r => some r

/-- The pieces with texts in the places of the references, in order. -/
def fill : List Piece → List (List Char) → List Char
  | .literal s :: ps, fills => s.toList ++ fill ps fills
  | .reference _ :: ps, f :: fills => f ++ fill ps fills
  | _, _ => []

/-- The literal texts of pieces, in order. -/
def literals : List Piece → List Char
  | [] => []
  | .literal s :: ps => s.toList ++ literals ps
  | .reference _ :: ps => literals ps

/-- The characters that structure an address, in order. -/
def delimiters (cs : List Char) : List Char :=
  cs.filter fun c => ['/', '?', '#', '&', '=', ':', '@', '\\'].contains c

/-- A text that may stand for a reference: it is escaped, and read back it is the value of the
reference, or nothing without a value. -/
def Inserted (scopes : Scopes) (m : Encoding × Reference) (cs : List Char) : Prop :=
  Text.Escaped cs ∧ m.1.bytes cs = Text.utf8 ((m.2.value? scopes).getD "").toList

/-- The delimiters of two texts are those of both together. -/
theorem delimiters_append (cs ds : List Char) :
    delimiters (cs ++ ds) = delimiters cs ++ delimiters ds := List.filter_append ..

/-- An escaped text has no delimiters. -/
theorem delimiters_escaped {cs : List Char} (h : Text.Escaped cs) : delimiters cs = [] := by
  have hd : ['/', '?', '#', '&', '=', ':', '@', '\\'].all (fun c =>
      !(Text.isKept c || Address.isHex c || c == '%')) = true := by decide
  refine List.filter_eq_nil_iff.2 fun c hc hm => ?_
  have hn := List.all_eq_true.1 hd c (by simpa using hm)
  simp only [Bool.not_eq_true', Bool.or_eq_false_iff, beq_eq_false_iff_ne] at hn
  obtain ⟨⟨hk, hx⟩, hp⟩ := hn
  exact h.not_mem hk hx hp hc

/-- Escaped texts add no delimiter. -/
theorem delimiters_fill {ps : List Piece} {fills : List (List Char)}
    (hn : (ps.filterMap Piece.reference?).length = fills.length)
    (he : ∀ f ∈ fills, Text.Escaped f) : delimiters (fill ps fills) = delimiters (literals ps) := by
  induction ps generalizing fills with
  | nil => rfl
  | cons p ps ih =>
    cases p with
    | literal s =>
      rw [fill, literals, delimiters_append, delimiters_append, ih hn he]
    | reference r =>
      cases fills with
      | nil => cases hn
      | cons f fills =>
        rw [fill, literals, delimiters_append, delimiters_escaped (he f List.mem_cons_self),
          List.nil_append]
        exact ih (Nat.succ.inj hn) fun g hg => he g (List.mem_cons_of_mem f hg)

/-- An encoding that is not verbatim escapes the value, so that it can be read back. -/
theorem inserted_of_encode? {scopes : Scopes} {m : Encoding × Reference} {s : String}
    {cs : List Char} (hv : m.1 ≠ .verbatim) (hr : m.2.value? scopes = some s)
    (h : m.1.encode? s.toList = some cs) : Inserted scopes m cs := by
  unfold Inserted
  rw [hr]
  obtain ⟨e, r⟩ := m
  cases e with
  | verbatim => exact absurd rfl hv
  | pathSegment =>
    simp only [Encoding.encode?] at h
    split at h
    · cases h
    · obtain rfl := Option.some.inj h
      exact ⟨Text.encodeSegment_escaped _, Text.segmentBytes_encodeSegment _⟩
  | query =>
    obtain rfl := Option.some.inj h
    exact ⟨Text.encodeForm_escaped _, Text.formBytes_encodeForm _⟩

/-- Nothing stands for a reference without a value. -/
theorem inserted_nil {scopes : Scopes} {m : Encoding × Reference}
    (hr : m.2.value? scopes = none) : Inserted scopes m [] := by
  unfold Inserted
  rw [hr]
  refine ⟨.nil, ?_⟩
  cases m.1 <;> rfl

/-- What is put in for references that are not verbatim is escaped. -/
theorem escaped_of_inserted {scopes : Scopes} {ms : List (Encoding × Reference)}
    {fills : List (List Char)} (h : List.Forall₂ (Inserted scopes) ms fills) :
    ∀ f ∈ fills, Text.Escaped f := by
  induction h with
  | nil => simp
  | cons hi _ ih => exact List.forall_mem_cons.2 ⟨hi.1, ih⟩

/-- The references with encodings are the references of the pieces. -/
theorem encodedReferences_map {ts : List Token} {ps : List Piece} (h : List.Forall₂ Reads ts ps)
    (literal : List Char) :
    (encodedReferences literal ts).map Prod.snd = ps.filterMap Piece.reference? := by
  induction h generalizing literal with
  | nil => rfl
  | @cons t p ts ps ht _ ih =>
    cases t with
    | text cs =>
      rw [encodedReferences, ht.text, ih]
      rfl
    | unterminated rest offset => exact absurd ht not_reads_unterminated
    | marker body offset =>
      obtain ⟨r, hr, rfl⟩ := ht.marker
      rw [encodedReferences, hr]
      simp only [List.map_cons, ih]
      rfl

/-- **Expansion puts an inserted text in the place of each reference.** -/
theorem expandUrlTokens_fill {scopes : Scopes} {ts : List Token} {ps : List Piece}
    (h : List.Forall₂ Reads ts ps) {literal out : List Char}
    (hv : ∀ m ∈ encodedReferences literal ts, m.1 ≠ .verbatim)
    (hu : expandUrlTokens scopes literal ts = .ok out) :
    ∃ fills, out = fill ps fills ∧
      List.Forall₂ (Inserted scopes) (encodedReferences literal ts) fills := by
  induction h generalizing literal out with
  | nil => exact ⟨[], (Except.ok.inj hu).symm, .nil⟩
  | @cons t p ts ps ht _ ih =>
    cases t with
    | text cs =>
      obtain ⟨rest, hrest, rfl⟩ := Except.map_eq_ok.1 hu
      obtain ⟨fills, rfl, hf⟩ := ih hv hrest
      refine ⟨fills, ?_, hf⟩
      rw [ht.text, fill, String.toList_ofList]
    | unterminated rest offset => exact absurd ht not_reads_unterminated
    | marker body offset =>
      obtain ⟨r, hr, rfl⟩ := ht.marker
      rw [encodedReferences, hr] at hv ⊢
      rw [expandUrlTokens, markerText_eq hr] at hu
      have hrest := fun m hm => hv m (List.mem_cons_of_mem _ hm)
      cases hval : r.value? scopes with
      | none =>
        rw [hval] at hu
        obtain ⟨fills, rfl, hf⟩ := ih hrest hu
        exact ⟨[] :: fills, rfl, .cons (inserted_nil hval) hf⟩
      | some s =>
        rw [hval] at hu
        simp only at hu
        cases he : (Encoding.forUrl literal offset).encode? s.toList with
        | none =>
          rw [he] at hu
          cases hu
        | some encoded =>
          rw [he] at hu
          obtain ⟨rest, hok, rfl⟩ := Except.map_eq_ok.1 hu
          obtain ⟨fills, rfl, hf⟩ := ih hrest hok
          have hv₀ := hv _ List.mem_cons_self
          exact ⟨encoded :: fills, rfl, .cons (inserted_of_encode? hv₀ hval he) hf⟩

/-- **Values neither change the structure of an address nor get lost.**  If a template is strict and
none of its markers is verbatim, what it expands to is its literal texts with one escaped text in
the place of each marker, from which the bytes of the value or default are read back; and the
delimiters are those of the literal texts, the same for any scopes. -/
theorem expandUrl_structure {template : String} {ps : List Piece} {scopes : Scopes} {url : String}
    (hp : parse template = .ok ps)
    (hv : ∀ m ∈ encodedReferences [] (scan template), m.1 ≠ .verbatim)
    (hu : expandUrl template scopes = .ok url) :
    (∃ fills, url.toList = fill ps fills ∧
      (encodedReferences [] (scan template)).map Prod.snd = ps.filterMap Piece.reference? ∧
      List.Forall₂ (Inserted scopes) (encodedReferences [] (scan template)) fills) ∧
    delimiters url.toList = delimiters (literals ps) ∧
    ∀ scopes' url', expandUrl template scopes' = .ok url' →
      delimiters url'.toList = delimiters url.toList := by
  have hr := parse_eq_ok.1 hp
  have hm := encodedReferences_map hr []
  have expanded : ∀ scopes url, expandUrl template scopes = .ok url →
      ∃ fills, url.toList = fill ps fills ∧
        List.Forall₂ (Inserted scopes) (encodedReferences [] (scan template)) fills := by
    intro scopes url hu
    obtain ⟨out, hout, rfl⟩ := Except.map_eq_ok.1 hu
    obtain ⟨fills, rfl, hf⟩ := expandUrlTokens_fill hr hv hout
    exact ⟨fills, String.toList_ofList, hf⟩
  have delimited : ∀ scopes url, expandUrl template scopes = .ok url →
      delimiters url.toList = delimiters (literals ps) := by
    intro scopes url hu
    obtain ⟨fills, he, hf⟩ := expanded scopes url hu
    have hn : (ps.filterMap Piece.reference?).length = fills.length := by
      rw [← hm, List.length_map, hf.length_eq]
    rw [he, delimiters_fill hn (escaped_of_inserted hf)]
  obtain ⟨fills, he, hf⟩ := expanded scopes url hu
  refine ⟨⟨fills, he, hm, hf⟩, delimited scopes url hu, fun scopes' url' hu' => ?_⟩
  rw [delimited scopes' url' hu', delimited scopes url hu]

/-- A value in a path and a default in a query: their delimiters are escaped. -/
theorem delimiters_of_path_and_query :
    expandUrl "h://h/${args.a}?q=${args.b || x&y}"
        (.forInvocation (.obj [("a", .str "../b?c")]) .null) = .ok "h://h/..%2Fb%3Fc?q=x%26y" ∧
      delimiters "h://h/..%2Fb%3Fc?q=x%26y".toList = [':', '/', '/', '/', '?', '='] := by
  have hu : expandUrl "h://h/${args.a}?q=${args.b || x&y}"
      (.forInvocation (.obj [("a", .str "../b?c")]) .null) = .ok "h://h/..%2Fb%3Fc?q=x%26y" := by
    decide +kernel
  have hp : parse "h://h/${args.a}?q=${args.b || x&y}" = .ok [.literal "h://h/",
      .reference ⟨"args.a", [.key "args", .key "a"], none⟩, .literal "?q=",
      .reference ⟨"args.b", [.key "args", .key "b"], some "x&y"⟩] := by
    decide +kernel
  obtain ⟨-, hd, -⟩ := expandUrl_structure hp (by decide +kernel) hu
  exact ⟨hu, hd⟩

end Template
end AgentTool
