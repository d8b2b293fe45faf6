import AgentTool.Scopes

/-!
# Following a path in two parts

To follow a path is to follow its first part, and then its second part from where the first leads
(`walk_in_parts`).  Only the rule for a last step `length` looks ahead, and it may: the size that it
yields is a number, and no path leads on from a number.

| value | `length` at the end |
| --- | --- |
| array | number of items |
| string | number of characters |
| object | its field `length`, or else the number of keys |
| other | nothing |
-/

namespace AgentTool

namespace Path

/-- No path leads on from a number. -/
theorem walk_int (n : Int) (s : Step) (rest : Path) : walk (.int n) (s :: rest) = none := by
  cases s with
  | key k => simp [walk, Json.field?, length?]
  | index i => simp [walk, item?]

/-- A key that is there leads to its value, and the rest of the path on from there. -/
theorem walk_key_of_some {v w : Json} {k : String} (h : v.field? k = some w) (rest : Path) :
    walk v (.key k :: rest) = walk w rest := by
  rw [walk, h]

/-- A key that names no field leads nowhere if the path goes on. -/
theorem walk_key_of_none {v : Json} {k : String} (h : v.field? k = none) {rest : Path}
    (hr : rest ≠ []) : walk v (.key k :: rest) = none := by
  have hlast : ¬(rest.isEmpty ∧ k = "length") := fun hl => hr (List.isEmpty_iff.1 hl.1)
  rw [walk, h]
  exact if_neg hlast

/-- At the end of a path it may still name a size, from which no path leads on. -/
theorem walk_last_of_none {v : Json} {k : String} (h : v.field? k = none) (s : Step) (rest : Path) :
    (walk v [.key k]).bind (walk · (s :: rest)) = none := by
  rw [walk, h]
  simp only
  split
  · cases length? v with
    | none => rfl
    | some n => exact walk_int n s rest
  · rfl

/-- **A path is followed in two parts.** -/
theorem walk_append (v : Json) (p q : Path) : walk v (p ++ q) = (walk v p).bind (walk · q) := by
  induction p generalizing v with
  | nil => rfl
  | cons step p ih =>
    rw [List.cons_append]
    cases step with
    | index n =>
      rw [walk, walk]
      cases item? v n with
      | none => rfl
      | some w => exact ih w
    | key k =>
      cases hf : v.field? k with
      | some w =>
        rw [walk_key_of_some hf, walk_key_of_some hf]
        exact ih w
      | none =>
        -- the key may be the last one of the path, of its first part only, or of neither
        cases p with
        | cons t p =>
          rw [walk_key_of_none hf (List.cons_ne_nil t p)]
          exact walk_key_of_none hf (List.cons_ne_nil t (p ++ q))
        | nil =>
          cases q with
          | nil => exact (Option.bind_fun_some _).symm
          | cons s q =>
            rw [walk_last_of_none hf]
            exact walk_key_of_none hf (List.cons_ne_nil _ _)

/-- **A path is followed in two parts, also where it ends in a size.**  Behind the first part, the
second leads on from the value that the first names, and nowhere if it names none; and a last step
`length` yields the number of items of an array, the number of characters of a string, and the field
`length` of an object or, without one, the number of its keys. -/
theorem walk_in_parts (v : Json) (p q : Path) :
    walk v (p ++ q) = (walk v p).bind (walk · q) ∧
      walk v (p ++ [.key "length"]) = (walk v p).bind fun
        | .arr items => some (.int items.length)
        | .str s => some (.int s.length)
        | .obj es => some ((Entries.get? "length" es).getD (.int (Entries.keys es).length))
        | _ => none := by
  refine ⟨walk_append v p q, ?_⟩
  rw [walk_append]
  congr 1
  funext w
  cases w with
  | obj es =>
    simp only [walk, Json.field?, length?, Entries.keys, List.length_map]
    cases Entries.get? "length" es <;> rfl
  | _ => rfl

end Path

/-- A path from a name is followed in two parts, of which the first holds the name. -/
theorem Scopes.resolve?_append (s : Scopes) {p : Path} (hp : p ≠ []) (q : Path) :
    s.resolve? (p ++ q) = (s.resolve? p).bind (Path.walk · q) := by
  cases p with
  | nil => exact absurd rfl hp
  | cons step p =>
    cases step with
    | index n => rfl
    | key name =>
      rw [List.cons_append, resolve?, resolve?, Option.bind_assoc]
      exact congrArg _ (funext fun v => Path.walk_append v p q)

end AgentTool
