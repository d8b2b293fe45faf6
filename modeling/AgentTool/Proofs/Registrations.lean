import AgentTool.Engine
import AgentTool.Proofs.ScopeLaws

/-!
# What a table of tools holds

The loop over a batch extends the tools and the index together and may stop in the middle
(`Registry.registerAll_cases`).  Whatever has been asked of a shared table, and in which order, its
current table holds the tools of the batches that were accepted, in order, and its index has the
position of each name and nothing else (`SharedRegistry.run_holds`).

| asked for | what it comes to |
| --- | --- |
| a batch of new and distinct names | a table with it at the end |
| a batch with a name that is taken or repeated | a refusal that tells the first such name |
| a document that does not compile | a refusal |
| a reading | an answer |

Only the first changes anything, and what it changes is not a table that is published already.
-/

namespace AgentTool

namespace Registry

variable {r : Registry} {name : String} {t : Tool}

/-- The names of a table are distinct, and its index has the position of each of them and nothing
else. -/
structure WellFormed (r : Registry) : Prop where
  distinct : r.names.Nodup
  index : ∀ name i, Entries.get? name r.index = some i ↔ r.names[i]? = some name

/-- The empty table is well formed. -/
theorem WellFormed.empty : Registry.empty.WellFormed where
  distinct := .nil
  index name i := by simp [Registry.empty, names, Entries.get?]

/-- A name is in the index exactly if it is the name of a tool. -/
theorem WellFormed.isSome_index (h : r.WellFormed) :
    (Entries.get? name r.index).isSome = true ↔ name ∈ r.names := by
  rw [Option.isSome_iff_exists, List.mem_iff_getElem?]
  exact exists_congr fun i => h.index name i

/-- **A name is looked up to the tool that has it.** -/
theorem WellFormed.get?_eq_some (h : r.WellFormed) :
    r.get? name = some t ↔ t ∈ r.tools ∧ t.name = name := by
  unfold get?
  rw [Option.bind_eq_some_iff, List.mem_iff_getElem?]
  constructor
  · rintro ⟨i, hi, ht⟩
    have hn : r.names[i]? = some name := (h.index name i).1 hi
    rw [names, List.getElem?_map, ht] at hn
    exact ⟨⟨i, ht⟩, Option.some.inj hn⟩
  · rintro ⟨⟨i, ht⟩, rfl⟩
    refine ⟨i, (h.index t.name i).2 ?_, ht⟩
    rw [names, List.getElem?_map, ht]
    rfl

/-- The index after one more name. -/
theorem WellFormed.extend (h : r.WellFormed) (hn : t.name ∉ r.names) :
    WellFormed {
      tools := r.tools ++ [t]
      index := Entries.insert r.index t.name r.tools.length } := by
  have hlength : r.names.length = r.tools.length := List.length_map _
  refine ⟨?distinct, fun name i => ?index⟩
  case distinct =>
    rw [names, List.map_append, List.nodup_append]
    refine ⟨h.distinct, List.pairwise_singleton _ _, ?_⟩
    rintro a ha b hb rfl
    obtain rfl : a = t.name := List.mem_singleton.1 hb
    exact hn ha
  case index =>
    rw [Entries.get?_insert, names, List.map_append]
    show _ ↔ (r.names ++ [t.name])[i]? = some name
    by_cases hname : name = t.name
    · subst hname
      rw [if_pos rfl, Option.some.injEq]
      constructor
      · rintro rfl
        rw [List.getElem?_append_right (Nat.le_of_eq hlength), hlength, Nat.sub_self]
        rfl
      · intro hi
        rcases Nat.lt_or_ge i r.names.length with hlt | hge
        · rw [List.getElem?_append_left hlt] at hi
          exact absurd (List.mem_of_getElem? hi) hn
        · rw [List.getElem?_append_right hge, List.getElem?_singleton] at hi
          split_ifs at hi
          omega
    · rw [if_neg hname, h.index name i]
      rcases Nat.lt_or_ge i r.names.length with hlt | hge
      · rw [List.getElem?_append_left hlt]
      · rw [List.getElem?_append_right hge, List.getElem?_eq_none hge, List.getElem?_singleton]
        split_ifs
        · simp [Ne.symm hname]
        · rfl

/-- A step of the loop over a batch: a tool of a new name is put at the end. -/
theorem push_cases (h : r.WellFormed) (t : Tool) :
    (t.name ∈ r.names ∧ r.push t = .error (nameTaken t.name)) ∨
    (t.name ∉ r.names ∧ ∃ r', r.push t = .ok r' ∧ r'.WellFormed ∧ r'.tools = r.tools ++ [t]) := by
  unfold push
  by_cases hn : t.name ∈ r.names
  · exact .inl ⟨hn, if_pos (h.isSome_index.2 hn)⟩
  · exact .inr ⟨hn, _, if_neg (mt h.isSome_index.1 hn), h.extend hn, rfl⟩

/-- **A batch is registered as a whole, or refused at the first name that is taken.** -/
theorem registerAll_cases (h : r.WellFormed) (batch : List Tool) :
    ((r.names ++ batch.map Tool.name).Nodup ∧
      ∃ r', r.registerAll batch = .ok r' ∧ r'.WellFormed ∧ r'.tools = r.tools ++ batch) ∨
    ∃ before t after, batch = before ++ t :: after ∧ (r.names ++ before.map Tool.name).Nodup ∧
      t.name ∈ r.names ++ before.map Tool.name ∧
        r.registerAll batch = .error (nameTaken t.name) := by
  induction batch generalizing r with
  | nil => exact .inl ⟨by simpa using h.distinct, r, rfl, h, (List.append_nil _).symm⟩
  | cons t ts ih =>
    have hstep : r.registerAll (t :: ts) = r.push t >>= fun r' => r'.registerAll ts := by
      simp [registerAll, List.foldlM_cons]
    rw [hstep]
    rcases push_cases h t with ⟨hn, hp⟩ | ⟨-, r₁, hp, h₁, ht₁⟩
    · exact .inr ⟨[], t, ts, rfl, by simpa using h.distinct, by simpa using hn, by rw [hp]; rfl⟩
    · -- the rest of the batch meets the names of the table with the tool
      have hnames : ∀ l : List Tool, r₁.names ++ l.map Tool.name =
          r.names ++ (t :: l).map Tool.name := by
        intro l
        simp [names, ht₁]
      rw [hp]
      rcases ih h₁ with ⟨hd, r', hr, h', ht'⟩ | ⟨before, t', after, rfl, hd, hm, hr⟩
      · exact .inl ⟨hnames ts ▸ hd, r', hr, h', by rw [ht', ht₁, List.append_assoc]; rfl⟩
      · exact .inr ⟨t :: before, t', after, rfl, hnames before ▸ hd, hnames before ▸ hm, hr⟩

end Registry

/-- The batches that are accepted, of those that come one after the other when some names are taken:
each whose names are neither taken nor repeated. -/
def acceptedBatches (taken : List String) : List (List Tool) → List (List Tool)
  | [] => []
  | batch :: batches =>
    if (taken ++ batch.map Tool.name).Nodup then
      batch :: acceptedBatches (taken ++ batch.map Tool.name) batches
    else acceptedBatches taken batches

namespace SharedRegistry

variable {s : SharedRegistry}

/-- The tools that a call asks to register, unless it is a reading or its document does not compile.
-/
def Call.batch? : Call → Option (List Tool)
  | .register r => r.tools.toOption
  | _ => none

/-- A registration is accepted by a table: its document compiles, and its names are neither taken
nor repeated. -/
def Accepts (s : SharedRegistry) (r : Registration) (batch : List Tool) : Prop :=
  r.tools = .ok batch ∧ (s.current.names ++ batch.map Tool.name).Nodup

/-- **What a registration does to a shared table**: a batch that is accepted is published at the end
of the table, and otherwise nothing changes. -/
theorem register_cases (h : s.current.WellFormed) (r : Registration) :
    (∃ batch table, s.Accepts r batch ∧ table.WellFormed ∧
      table.tools = s.current.tools ++ batch ∧ s.register r = (s.publish table, .registered)) ∨
    (∀ batch, ¬s.Accepts r batch) ∧ ∃ e, s.register r = (s, .refused e) ∧
      (r.tools = .error e ∨ ∃ before t after, r.tools = .ok (before ++ t :: after) ∧
        (s.current.names ++ before.map Tool.name).Nodup ∧
          t.name ∈ s.current.names ++ before.map Tool.name ∧ e = Registry.nameTaken t.name) := by
  unfold register Accepts
  cases hr : r.tools with
  | error e => exact .inr ⟨by simp, e, rfl, .inl rfl⟩
  | ok batch =>
    show _ ∨ _
    rcases Registry.registerAll_cases h batch with
      ⟨hd, table, ht, hw, htools⟩ | ⟨before, t, after, rfl, hd, hm, he⟩
    · exact .inl ⟨batch, table, ⟨rfl, hd⟩, hw, htools, by simp [Except.bind, ht]⟩
    · refine .inr ⟨?_, _, by simp [Except.bind, he], .inr ⟨before, t, after, rfl, hd, hm, rfl⟩⟩
      rintro _ ⟨hb, hnodup⟩
      obtain rfl := Except.ok.inj hb
      rw [List.map_append, List.map_cons, ← List.append_assoc, List.nodup_append] at hnodup
      exact hnodup.2.2 _ hm _ (List.mem_cons_self ..) rfl

/-- A call that registers nothing leaves a shared table as it is. -/
theorem step_of_reading {c : Call} (hc : ∀ r, c ≠ .register r) : (s.step c).1 = s := by
  cases c with
  | register r => exact absurd rfl (hc r)
  | _ => rfl

/-- **What one call does**: the table stays well formed, and has the batch of the call at its end if
this is accepted. -/
theorem step_holds (h : s.current.WellFormed) (c : Call) :
    (s.step c).1.current.WellFormed ∧ (s.step c).1.current.tools = s.current.tools ++
      (acceptedBatches s.current.names c.batch?.toList).flatten := by
  by_cases hc : ∃ r, c = .register r
  · obtain ⟨r, rfl⟩ := hc
    show (s.register r).1.current.WellFormed ∧ (s.register r).1.current.tools = _
    rcases register_cases h r with ⟨batch, table, ⟨hb, hd⟩, hw, ht, he⟩ | ⟨hn, e, he, -⟩
    · rw [he]
      refine ⟨hw, ht.trans ?_⟩
      simp [Call.batch?, hb, Except.toOption, acceptedBatches, hd]
    · rw [he]
      refine ⟨h, ?_⟩
      cases hb : r.tools with
      | error e => simp [Call.batch?, hb, Except.toOption, acceptedBatches]
      | ok batch =>
        have hd : ¬(s.current.names ++ batch.map Tool.name).Nodup := fun hd => hn batch ⟨hb, hd⟩
        simp [Call.batch?, hb, Except.toOption, acceptedBatches, hd]
  · rw [step_of_reading fun r hr => hc ⟨r, hr⟩]
    refine ⟨h, ?_⟩
    cases c with
    | register r => exact absurd ⟨r, rfl⟩ hc
    | _ => simp [Call.batch?, acceptedBatches]

/-- What is accepted of batches that follow one that may come first. -/
theorem acceptedBatches_append (taken : List String) (first : Option (List Tool))
    (batches : List (List Tool)) :
    (acceptedBatches taken (first.toList ++ batches)).flatten =
      (acceptedBatches taken first.toList).flatten ++
        (acceptedBatches (taken ++ (acceptedBatches taken first.toList).flatten.map Tool.name)
          batches).flatten := by
  cases first with
  | none => simp [acceptedBatches]
  | some batch =>
    by_cases hd : (taken ++ batch.map Tool.name).Nodup
    · simp [acceptedBatches, hd]
    · simp [acceptedBatches, hd]

/-- **What calls do, one after the other.** -/
theorem run_tools (h : s.current.WellFormed) (calls : List Call) :
    (s.run calls).current.WellFormed ∧ (s.run calls).current.tools = s.current.tools ++
      (acceptedBatches s.current.names (calls.filterMap Call.batch?)).flatten := by
  induction calls generalizing s with
  | nil => exact ⟨h, (List.append_nil _).symm⟩
  | cons c calls ih =>
    obtain ⟨hw, ht⟩ := step_holds h c
    obtain ⟨hw', ht'⟩ := ih hw
    have hcalls : (c :: calls).filterMap Call.batch? =
        c.batch?.toList ++ calls.filterMap Call.batch? := by
      cases hb : c.batch? <;> simp [hb]
    have hnames : (s.step c).1.current.names = s.current.names ++
        (acceptedBatches s.current.names c.batch?.toList).flatten.map Tool.name := by
      rw [Registry.names, ht, List.map_append]
      rfl
    refine ⟨hw', ht'.trans ?_⟩
    rw [hcalls, acceptedBatches_append, ← List.append_assoc, ← ht, ← hnames]

/-! ## Snapshots -/

/-- A call publishes a table behind the others, or none. -/
theorem published_step (s : SharedRegistry) (c : Call) : s.published <+: (s.step c).1.published := by
  cases c with
  | register r =>
    show s.published <+: (s.register r).1.published
    unfold register
    cases r.tools.bind s.current.registerAll with
    | error e => exact List.prefix_rfl
    | ok table => exact List.prefix_append _ _
  | _ => exact List.prefix_rfl

/-- Tables that are published stay published. -/
theorem published_run (s : SharedRegistry) (calls : List Call) :
    s.published <+: (s.run calls).published := by
  induction calls generalizing s with
  | nil => exact List.prefix_rfl
  | cons c calls ih => exact (published_step s c).trans (ih _)

/-- **A snapshot never changes.** -/
theorem table?_run {n : Nat} {table : Registry} (h : s.table? n = some table) (later : List Call) :
    (s.run later).table? n = some table := by
  obtain ⟨rest, hr⟩ := published_run s later
  have hn : n < s.published.length := (List.getElem?_eq_some_iff.1 h).1
  rw [table?, ← hr, List.getElem?_append_left hn]
  exact h

/-- A snapshot shows the table that it is taken of. -/
theorem table?_snapshot (s : SharedRegistry) : s.table? s.snapshot = some s.current := by
  unfold table? published snapshot
  rw [List.getElem?_append_right (Nat.le_refl _), Nat.sub_self]
  rfl

end SharedRegistry

/-! ## The table of an engine -/

namespace Engine

variable {e : Engine} {s : SharedRegistry}

/-- What an engine becomes by a registration with its table. -/
def registered (e : Engine) : SharedRegistry × SharedRegistry.Answer → Except SetupError Engine
  | (_, .refused err) => .error (.definition err)
  | (s, _) => .ok { e with registry := s.current }

/-- A registration is that of the table, with its refusals told as those of the engine. -/
theorem registered_register (e : Engine) (s : SharedRegistry) (r : Registration) :
    e.registered (s.register r) = ((r.tools.bind s.current.registerAll).mapError
      SetupError.definition).map fun table => { e with registry := table } := by
  unfold SharedRegistry.register
  cases r.tools.bind s.current.registerAll with
  | error err => rfl
  | ok table => rfl

/-- An engine registers a tool with its table. -/
theorem register_eq (h : e.registry = s.current) (t : Tool) :
    e.register t = e.registered (s.register (.tool t)) := by
  rw [registered_register, register, h]
  rfl

/-- An engine registers a document with its table. -/
theorem registerDocument_eq (h : e.registry = s.current) (d : Document) :
    e.registerDocument d = e.registered (s.register (.document d)) := by
  rw [registered_register, registerDocument, Registration.tools]
  cases d.compile none with
  | error err => rfl
  | ok t => exact (register_eq h t).trans (registered_register e s (.tool t))

end Engine

namespace SharedRegistry

/-- **What a shared table holds, whatever has been asked of it.**  It holds the tools of the batches
that were accepted, in order, under distinct names, and its index has the position of each name and
nothing else, so that a name is looked up to the one tool that has it.  A registration is accepted
exactly if its names are neither taken nor repeated, and otherwise nothing changes, in whichever way
an engine makes it; no other call changes anything; and a snapshot never changes. -/
theorem run_holds (calls : List Call) :
    let s := SharedRegistry.run {} calls
    s.current.tools = (acceptedBatches [] (calls.filterMap Call.batch?)).flatten ∧
      s.current.WellFormed ∧
      (∀ name t, s.current.get? name = some t ↔ t ∈ s.current.tools ∧ t.name = name) ∧
      (∀ r, (∃ batch table, s.Accepts r batch ∧ table.tools = s.current.tools ++ batch ∧
          s.register r = (s.publish table, .registered)) ∨
        (∀ batch, ¬s.Accepts r batch) ∧ ∃ e, s.register r = (s, .refused e)) ∧
      (∀ c, (∃ r, c = .register r) ∨ (s.step c).1 = s) ∧
      (∀ n table, s.table? n = some table → ∀ later, (s.run later).table? n = some table) ∧
      s.table? s.snapshot = some s.current ∧
      ∀ e : Engine, e.registry = s.current →
        (∀ t, e.register t = e.registered (s.register (.tool t))) ∧
          ∀ d, e.registerDocument d = e.registered (s.register (.document d)) := by
  intro s
  have hempty : (({} : SharedRegistry).current).WellFormed := .empty
  obtain ⟨hw, ht⟩ := run_tools hempty calls
  refine ⟨ht, hw, fun name t => hw.get?_eq_some, fun r => ?registered, fun c => ?read,
    fun n table h later => table?_run h later, table?_snapshot s, fun e he =>
      ⟨Engine.register_eq he, Engine.registerDocument_eq he⟩⟩
  case registered =>
    rcases register_cases hw r with ⟨batch, table, ha, -, htools, he⟩ | ⟨hn, e, he, -⟩
    · exact .inl ⟨batch, table, ha, htools, he⟩
    · exact .inr ⟨hn, e, he⟩
  case read =>
    by_cases hc : ∃ r, c = .register r
    · exact .inl hc
    · exact .inr (step_of_reading fun r hr => hc ⟨r, hr⟩)

/-- A tool of which only the name matters. -/
def toolNamed (name : String) : Tool where
  document := { name }
  parameters := []
  instanceKey := none
  runtime := .localWebhook ""

/-- A batch with a name that is taken is refused as a whole, so its other name is still free for a
later batch; the snapshot in between shows the table without this. -/
theorem run_of_refused_batch :
    let before : List Call := [.register (.tool (toolNamed "a")),
      .register (.batch [toolNamed "b", toolNamed "a"])]
    let after : List Call := [.register (.batch [toolNamed "c", toolNamed "b"])]
    let s := SharedRegistry.run {} before
    let s' := SharedRegistry.run {} (before ++ after)
    s'.current.names = ["a", "c", "b"] ∧ s'.current.get? "b" = some (toolNamed "b") ∧
      Entries.get? "b" s'.current.index = some 2 ∧ s'.table? s.snapshot = some s.current ∧
        s.current.names = ["a"] := by
  intro before after s s'
  obtain ⟨ht, -, -, -, -, hkept, hshown, -⟩ := run_holds before
  obtain ⟨ht', hw, hget, -⟩ := run_holds (before ++ after)
  have hs' : s' = s.run after := List.foldl_append
  have hb : toolNamed "b" ∈ s'.current.tools := by
    rw [ht']
    exact .tail _ (.tail _ (.head _))
  refine ⟨?_, (hget "b" _).2 ⟨hb, rfl⟩, (hw.index "b" 2).2 ?_, ?_, ?_⟩
  · rw [Registry.names, ht']
    decide
  · rw [Registry.names, ht']
    decide
  · rw [hs']
    exact hkept _ _ hshown after
  · rw [Registry.names, ht]
    decide

end SharedRegistry
end AgentTool
