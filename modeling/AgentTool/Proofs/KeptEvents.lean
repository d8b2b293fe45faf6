import AgentTool.Sink
import Mathlib.Data.List.DropRight

/-!
# What the memories of sinks keep

An event that reaches a tree of sinks is added to a memory once for each place at which the memory
occurs in the tree (`Sink.memories_emit`).  A memory drops its first event exactly when it is full,
and so holds the last of the events that were added since it was cleared (`Memory.add_keeping`).
Together: after any steps every memory holds the last of what was delivered to it, as many as it
has room for, in the order in which they were emitted (`SinkState.run_memories`).

| step | delivered to a memory |
| --- | --- |
| an event reaches a tree | the event, once for each occurrence of the memory |
| the memory is cleared | what was delivered before does not count any more |
| another memory is cleared | nothing |
-/

namespace AgentTool

variable {c n : Nat} {e : Event} {h es : List Event}

namespace Memory

/-- A memory that was given the events of a history. -/
def keeping (capacity : Nat) (history : List Event) : Memory :=
  { capacity, events := history.rtake (max capacity 1) }

/-- One event more pushes out the first of those that are kept, if there are as many as fit. -/
theorem rtake_concat (k : Nat) (h : List Event) (e : Event) :
    (if (h.rtake (k + 1)).length = k + 1 then (h.rtake (k + 1)).drop 1 ++ [e]
      else h.rtake (k + 1) ++ [e]) = (h ++ [e]).rtake (k + 1) := by
  rw [List.rtake_concat_succ]
  simp only [List.rtake, List.length_drop, List.drop_drop]
  split
  · have hd : h.length - (k + 1) + 1 = h.length - k := by omega
    rw [hd]
  · -- all of a history that is too short is kept
    have hd : h.length - (k + 1) = h.length - k := by omega
    rw [hd]

/-- **What is added is kept, and what does not fit any more is the oldest.** -/
theorem add_keeping : (keeping c h).add e = keeping c (h ++ [e]) := by
  obtain ⟨k, hk⟩ : ∃ k, max c 1 = k + 1 := ⟨max c 1 - 1, by omega⟩
  simp only [keeping, add, size, hk, rtake_concat]

/-- A memory that keeps a history keeps it with the events that are added. -/
theorem foldl_add_keeping : es.foldl add (keeping c h) = keeping c (h ++ es) := by
  induction es generalizing h with
  | nil => rw [List.append_nil]; rfl
  | cons e es ih => rw [List.foldl_cons, add_keeping, ih, List.append_assoc]; rfl

/-- A memory that keeps an empty history is empty. -/
theorem keeping_nil : keeping c [] = { capacity := c } := by
  rw [keeping, List.rtake_nil]

/-- A cleared memory keeps an empty history. -/
theorem clear_keeping : (keeping c h).clear = keeping c [] := by
  rw [keeping_nil]
  rfl

/-- A memory keeps as many events as fit. -/
theorem length_keeping : (keeping c h).events.length = min (max c 1) h.length := by
  rw [keeping, List.rtake, List.length_drop]
  omega

end Memory

/-! ## Trees of sinks -/

mutual

/-- How often a memory occurs in a tree of sinks. -/
def Sink.occurrences (n : Nat) : Sink → Nat
  | .nowhere => 0
  | .memory m => if m = n then 1 else 0
  | .log => 0
  | .all sinks => occurrencesIn n sinks

/-- How often a memory occurs in several trees. -/
def Sink.occurrencesIn (n : Nat) : List Sink → Nat
  | [] => 0
  | k :: ks => k.occurrences n + occurrencesIn n ks

end

/-- Changing one item changes the item with its index. -/
theorem modify_eq_mapIdx {α : Type} {f : α → α} {as : List α} :
    as.modify n f = as.mapIdx fun i a => if n = i then f a else a := by
  refine (List.mapIdx_eq_iff.2 fun i => ?_).symm
  rw [List.getElem?_modify]
  rfl

/-- The memories, each with an event added to it as often as told. -/
def SinkState.addEach (s : SinkState) (times : Nat → Nat) (e : Event) : List Memory :=
  s.memories.mapIdx fun n m => (List.replicate (times n) e).foldl Memory.add m

/-- Events that are added to no memory change none. -/
theorem SinkState.addEach_never (s : SinkState) (e : Event) :
    s.addEach (fun _ => 0) e = s.memories :=
  List.mapIdx_eq_iff.2 fun _ => Option.map_id'.symm

mutual

/-- **A memory is given an event once for each of its occurrences.** -/
theorem Sink.memories_emit (s : SinkState) (e : Event) :
    (k : Sink) → (k.emit s e).memories = s.addEach k.occurrences e
  | .nowhere => (s.addEach_never e).symm
  | .log => (s.addEach_never e).symm
  | .memory m => by
    refine modify_eq_mapIdx.trans (congrArg (s.memories.mapIdx ·) ?_)
    funext n a
    by_cases hn : m = n <;> simp [occurrences, hn]
  | .all sinks => memories_emitAll s e sinks

/-- `memories_emit` on several sinks in turn. -/
theorem Sink.memories_emitAll (s : SinkState) (e : Event) :
    (ks : List Sink) → (emitAll s e ks).memories = s.addEach (occurrencesIn · ks) e
  | [] => (s.addEach_never e).symm
  | k :: ks => by
    rw [emitAll, memories_emitAll, SinkState.addEach, memories_emit s e k, SinkState.addEach,
      List.mapIdx_mapIdx, SinkState.addEach]
    congr 1
    funext n m
    rw [Function.comp_apply, ← List.foldl_append, List.replicate_append_replicate, occurrencesIn]

end

/-! ## Runs -/

/-- A step that bears on sinks: an event reaches a tree, or a memory is cleared. -/
inductive SinkStep where
  | emit (sink : Sink) (e : Event)
  | clear (memory : Nat)

namespace SinkStep

/-- The events that a step delivers to a memory. -/
def delivered (n : Nat) : SinkStep → List Event
  | emit sink e => List.replicate (sink.occurrences n) e
  | clear _ => []

/-- Whether a step leaves what a memory holds. -/
def spares (n : Nat) : SinkStep → Bool
  | emit _ _ => true
  | clear m => m != n

/-- The steps after the last one that cleared a memory. -/
def sinceClear (n : Nat) (steps : List SinkStep) : List SinkStep := steps.rtakeWhile (spares n)

/-- The events delivered to a memory since it was cleared. -/
def history (n : Nat) (steps : List SinkStep) : List Event :=
  (sinceClear n steps).flatMap (delivered n)

variable {steps : List SinkStep}

/-- An event that is emitted is in the history once for each occurrence of the memory. -/
theorem history_emit {k : Sink} :
    history n (steps ++ [emit k e]) = history n steps ++ List.replicate (k.occurrences n) e := by
  have hs : spares n (emit k e) = true := rfl
  rw [history, sinceClear, List.rtakeWhile_concat, if_pos hs, List.flatMap_append]
  simp [history, sinceClear, delivered]

/-- A memory that is cleared has no history, and any other memory keeps its own. -/
theorem history_clear {m : Nat} :
    history n (steps ++ [clear m]) = if m = n then [] else history n steps := by
  rw [history, sinceClear, List.rtakeWhile_concat]
  by_cases hm : m = n <;> simp [history, sinceClear, delivered, spares, hm]

end SinkStep

namespace SinkState

open SinkStep

/-- Memories without events, of the given capacities. -/
def ofCapacities (capacities : List Nat) : SinkState :=
  { memories := capacities.map fun capacity => { capacity } }

/-- The state after a step. -/
def apply (s : SinkState) : SinkStep → SinkState
  | .emit sink e => sink.emit s e
  | .clear n => { s with memories := s.memories.modify n Memory.clear }

/-- The state after steps. -/
def run (s : SinkState) (steps : List SinkStep) : SinkState := steps.foldl apply s

variable {s : SinkState} {capacities : List Nat} {histories : Nat → List Event}

/-- Memories of the given capacities that keep the histories. -/
def Keeps (s : SinkState) (capacities : List Nat) (histories : Nat → List Event) : Prop :=
  s.memories = capacities.mapIdx fun n c => Memory.keeping c (histories n)

/-- Fresh memories have no history. -/
theorem keeps_ofCapacities : (ofCapacities capacities).Keeps capacities fun _ => [] := by
  refine (List.mapIdx_eq_iff.2 fun n => ?_).symm
  simp only [ofCapacities, List.getElem?_map, Memory.keeping_nil]

/-- An event extends the histories. -/
theorem Keeps.emit (hs : s.Keeps capacities histories) (k : Sink) :
    (s.apply (.emit k e)).Keeps capacities fun n =>
      histories n ++ List.replicate (k.occurrences n) e := by
  rw [Keeps, apply, Sink.memories_emit, addEach, hs, List.mapIdx_mapIdx]
  congr 1
  funext n c
  exact Memory.foldl_add_keeping

/-- A memory that is cleared starts again. -/
theorem Keeps.clear (hs : s.Keeps capacities histories) (m : Nat) :
    (s.apply (.clear m)).Keeps capacities fun n => if m = n then [] else histories n := by
  rw [Keeps, apply, modify_eq_mapIdx, hs, List.mapIdx_mapIdx]
  refine congrArg (capacities.mapIdx ·) ?_
  funext n c
  by_cases hm : m = n <;> simp [hm, Memory.clear_keeping]

/-- After any steps every memory keeps its history. -/
theorem keeps_run (capacities : List Nat) (steps : List SinkStep) :
    ((ofCapacities capacities).run steps).Keeps capacities (history · steps) := by
  induction steps using List.reverseRecOn with
  | nil => exact keeps_ofCapacities
  | append_singleton steps step ih =>
    rw [run, List.foldl_concat, ← run]
    cases step with
    | emit k e => simpa only [history_emit] using ih.emit k
    | clear m => simpa only [history_clear] using ih.clear m

/-- **Sinks lose and double nothing within their bound.**  After any steps, each memory holds the
last of the events that were delivered to it since it was cleared, as many as fit, in the order
in which they were emitted, where a memory of capacity zero has room for one, and an event is
delivered once for each occurrence of the memory in the tree that it reaches.  Asked for an
invocation, the memory tells those among them that belong to it. -/
theorem run_memories (capacities : List Nat) (steps : List SinkStep) :
    let memories := ((ofCapacities capacities).run steps).memories
    let kept (n c : Nat) := (history n steps).rtake (max c 1)
    memories.map Memory.events = capacities.mapIdx kept ∧
      (∀ id, memories.map (·.eventsFor id) =
        capacities.mapIdx fun n c => (kept n c).filter fun e => e.invocation = id) ∧
      ∀ n c, (kept n c).length = min (max c 1) (history n steps).length := by
  intro memories kept
  have hm : memories = capacities.mapIdx fun n c => Memory.keeping c (history n steps) :=
    keeps_run capacities steps
  refine ⟨?events, fun id => ?eventsFor, fun n c => Memory.length_keeping⟩
  case events =>
    refine (List.mapIdx_eq_iff.2 fun n => ?_).symm
    rw [hm, List.getElem?_map, List.getElem?_mapIdx, Option.map_map]
    rfl
  case eventsFor =>
    refine (List.mapIdx_eq_iff.2 fun n => ?_).symm
    rw [hm, List.getElem?_map, List.getElem?_mapIdx, Option.map_map]
    rfl

/-- A memory of capacity zero that occurs twice has room for one of the two copies. -/
example :
    let e : Event := ⟨"a", .started "t"⟩
    let tree : Sink := .all [.memory 0, .all [.log, .memory 0, .memory 1]]
    (((ofCapacities [0, 3]).run [.clear 1, .emit tree e, .emit tree e]).memories.map
      fun m => m.events.length) = [1, 2] := by decide

end SinkState
end AgentTool
