import AgentTool.Proofs.Acceptance
import AgentTool.Proofs.PathReadings
import AgentTool.Proofs.ScopeLaws

/-!
# Keys of a reply

Error keys and the input of an iteration are looked up in a reply itself; a template reaches the
same reply through the name `response`.  The two agree on every key whose first name is a word, and
on a key that starts with the numeral of an index unless the reply is an array
(`Path.resolveText?_replyKey`).

A key starts with a name, so `0.error` asks for the field `0` of an object and never for the first
item of an array, whereas `response.0.error` asks for either.
-/

namespace AgentTool

/-- A text under which a reply is looked up: an error key, or the input of an iteration. -/
inductive IsReplyKey (key : String) : Prop where
  | errorKey {keys : List String} {path : String} :
      Check.errorKeys keys path = .ok () → key ∈ keys → IsReplyKey key
  | input {f : Foreach} {path : String} :
      Check.foreach f path = .ok () → f.input = key → IsReplyKey key

/-- A key of a reply is the text of a path. -/
theorem IsReplyKey.isPathText {key : String} (h : IsReplyKey key) : IsPathText key := by
  cases h with
  | errorKey hc hk => exact Check.errorKeys_eq_ok.1 hc key hk
  | input hc hf => exact hf ▸ (Check.foreach_eq_ok.1 hc).input

/-- The name of the reply is plain. -/
theorem isPlainName_response : IsPlainName Scopes.responseName :=
  Check.isPlainName_iff.1 (by decide)

namespace Path

/-- Behind `response`, a path leads into the reply that is bound to it. -/
theorem resolve?_bindResponse (scopes : Scopes) (body : Json) (path : Path) :
    (scopes.bindResponse body).resolve? (.key Scopes.responseName :: path) = walk body path := by
  rw [Scopes.resolve?, Scopes.get?_bindResponse, Option.bind_some]

/-- **A key of a reply and the template path behind `response` lead to the same value,** or neither
leads anywhere, if the first name of the key is a word; and if it is the numeral of an index, the
same holds for every reply that is no array. -/
theorem resolveText?_replyKey {key : String} (hk : IsReplyKey key) :
    ∃ name rest, parse? key = some (.key name :: rest) ∧
      ∀ (scopes : Scopes) (body : Json),
        ¬IsDigits name ∨ IsDotted name ∧ (∀ items, body ≠ .arr items) →
          (scopes.bindResponse body).resolveText? ("response." ++ Text.trimString key) =
            get? body key := by
  obtain ⟨path, hpath⟩ := hk.isPathText
  obtain ⟨name, rest, rfl, hname, hbehind⟩ := parse_behind isPlainName_response hpath
  have hparse : parse? key = some (.key name :: rest) := Except.toOption_eq_some.2 hpath
  refine ⟨name, rest, hparse, fun scopes body h => ?_⟩
  have hget : get? body key = walk body (.key name :: rest) := by
    rw [get?, hparse, Option.bind_some]
  have hresolve : (scopes.bindResponse body).resolveText? ("response." ++ Text.trimString key) =
      (dotted? name).bind fun step => walk body (step :: rest) := by
    rw [Scopes.resolveText?]
    rw [show "response." = Scopes.responseName ++ "." from rfl, hbehind]
    cases dotted? name with
    | none => rfl
    | some step => exact resolve?_bindResponse scopes body (step :: rest)
  rw [hresolve, hget]
  rcases h with hword | ⟨hd, hbody⟩
  · rw [dotted?_word hname hword, Option.bind_some]
  · obtain ⟨step, hstep, hwalk⟩ := walk_dotted hname hd
    rw [hstep, Option.bind_some, hwalk body rest hbody]

/-- A word reaches into an array through its `length`, and a numeral into an object. -/
theorem resolveText?_of_length_and_numeral :
    (Scopes.empty.bindResponse (.arr [.null, .null])).resolveText? "response.length" =
        some (.int 2) ∧
      (Scopes.empty.bindResponse (.obj [("7", .obj [("e", .str "bad")])])).resolveText?
        "response.7.e" = some (.str "bad") := by
  have hkeys : Check.errorKeys ["length", "7.e"] "error_keys" = .ok () := by decide +kernel
  have hlength : parse? "length" = some [.key "length"] := by decide +kernel
  have hnumeral : parse? "7.e" = some [.key "7", .key "e"] := by decide +kernel
  constructor
  · obtain ⟨name, rest, hp, h⟩ := resolveText?_replyKey (.errorKey hkeys List.mem_cons_self)
    obtain ⟨⟨⟩, -⟩ := List.cons.inj (Option.some.inj (hlength.symm.trans hp))
    have hword : ¬IsDigits "length" := fun hd => absurd (hd 'l' (by decide)) (by decide)
    refine (h Scopes.empty _ (.inl hword)).trans ?_
    rw [get?, hlength]
    rfl
  · obtain ⟨name, rest, hp, h⟩ :=
      resolveText?_replyKey (.errorKey hkeys (List.mem_cons_of_mem _ List.mem_cons_self))
    obtain ⟨⟨⟩, -⟩ := List.cons.inj (Option.some.inj (hnumeral.symm.trans hp))
    have hdotted : IsDotted "7" := fun _ => ⟨7, by decide, by decide⟩
    refine (h Scopes.empty (.obj [("7", .obj [("e", .str "bad")])])
      (.inr ⟨hdotted, nofun⟩)).trans ?_
    rw [get?, hnumeral]
    rfl

/-- Where a key of digits and the path behind `response` part: at the items of an array, at leading
zeros, and at numbers out of range.  And blanks around a key count as soon as it stands behind a
name. -/
theorem replyKey_of_digits :
    Check.errorKeys ["0.e", "00", "18446744073709551616", " e"] "error_keys" = .ok () ∧
      (get? (.arr [.obj [("e", .str "bad")]]) "0.e" = none ∧
        (Scopes.empty.bindResponse (.arr [.obj [("e", .str "bad")]])).resolveText?
          "response.0.e" = some (.str "bad")) ∧
      (get? (.obj [("00", .str "bad")]) "00" = some (.str "bad") ∧
        (Scopes.empty.bindResponse (.obj [("00", .str "bad")])).resolveText?
          "response.00" = none) ∧
      (get? (.obj [("18446744073709551616", .str "bad")]) "18446744073709551616" =
          some (.str "bad") ∧
        (Scopes.empty.bindResponse (.obj [("18446744073709551616", .str "bad")])).resolveText?
          "response.18446744073709551616" = none) ∧
      (get? (.obj [("e", .str "bad")]) " e" = some (.str "bad") ∧
        (Scopes.empty.bindResponse (.obj [("e", .str "bad")])).resolveText?
          "response. e" = none) := by
  have item : parse? "0.e" = some [.key "0", .key "e"] ∧
      parse? "response.0.e" = some [.key "response", .index 0, .key "e"] := by
    decide +kernel
  have zeros : parse? "00" = some [.key "00"] ∧
      parse? "response.00" = some [.key "response", .index 0] := by
    decide +kernel
  have large : parse? "18446744073709551616" = some [.key "18446744073709551616"] ∧
      parse? "response.18446744073709551616" = none := by
    decide +kernel
  have blank : parse? " e" = some [.key "e"] ∧ parse? "response. e" = none := by
    decide +kernel
  refine ⟨by decide +kernel, ⟨?_, ?_⟩, ⟨?_, ?_⟩, ⟨?_, ?_⟩, ⟨?_, ?_⟩⟩
  · rw [get?, item.1]
    rfl
  · rw [Scopes.resolveText?, item.2]
    rfl
  · rw [get?, zeros.1]
    rfl
  · rw [Scopes.resolveText?, zeros.2]
    rfl
  · rw [get?, large.1]
    rfl
  · rw [Scopes.resolveText?, large.2]
    rfl
  · rw [get?, blank.1]
    rfl
  · rw [Scopes.resolveText?, blank.2]
    rfl

end Path
end AgentTool
