import AgentTool.Proofs.RunLaws

/-!
# Traces

The trace of a run is what it tells: the facts that it reports, in order.  `Run.Tells` says
from any world what a run may come to and by which trace, for a value and for a stop.  The
trace of a run is put together from those of its parts.

| run | trace |
| --- | --- |
| `pure`, a wait, an exchange with the network | empty |
| a report | its fact |
| one run after another | one trace after the other |
| a run that is taken up after a stop | what was told before the stop, then the rest |
-/

namespace AgentTool
namespace Run

variable {α β : Type} {id : String}

/-- From `w` to `w'` an invocation has told a trace. -/
def Told (id : String) (t : List Event.Fact) (w w' : World) : Prop :=
  w'.events = w.events ++ t.map (Event.mk id)

/-- From any world a run tells a trace of the invocation `id`, and comes to a value by it as `Q`
allows or is stopped by it as `S` allows. -/
def Tells (id : String) (x : Run α) (Q : α → List Event.Fact → Prop)
    (S : Stop → List Event.Fact → Prop) : Prop :=
  ∀ w, x.Meets w (fun a w' => ∃ t, Told id t w w' ∧ Q a t) (fun s w' => ∃ t, Told id t w w' ∧ S s t)

/-- Nothing is told where no event is added. -/
theorem Told.of_eq {w w' : World} (h : w'.events = w.events) : Told id [] w w' := by
  rw [Told, h, List.map_nil, List.append_nil]

/-- What is told by one run and then by another is told by both. -/
theorem Told.trans {t u : List Event.Fact} {w w₁ w₂ : World} (ht : Told id t w w₁)
    (hu : Told id u w₁ w₂) : Told id (t ++ u) w w₂ := by
  rw [Told, hu, ht, List.map_append, List.append_assoc]

namespace Tells

variable {x : Run α} {g : α → Run β} {Q Q' : α → List Event.Fact → Prop}
  {R : β → List Event.Fact → Prop} {S S' : Stop → List Event.Fact → Prop}

/-- A run that only returns tells nothing. -/
theorem pure {a : α} (h : Q a []) : Tells id (Pure.pure a : Run α) Q S := fun _ =>
  Meets.pure ⟨[], .of_eq rfl, h⟩

/-- A run that only stops tells nothing. -/
theorem throw {s : Stop} (h : S s []) : Tells id (MonadExcept.throw s : Run α) Q S := fun _ =>
  ⟨[], .of_eq rfl, h⟩

/-- Looking at the world tells nothing. -/
theorem get {Q : World → List Event.Fact → Prop} (h : ∀ w, Q w []) :
    Tells id (MonadState.get : Run World) Q S := fun w =>
  ⟨[], .of_eq rfl, h w⟩

/-- What follows from a value or a stop, and its trace, may be said of the run. -/
theorem imp (hx : Tells id x Q S) (h : ∀ a t, Q a t → Q' a t) (hs : ∀ s t, S s t → S' s t) :
    Tells id x Q' S' := fun w =>
  (hx w).imp (fun a _ ⟨t, ht, hq⟩ => ⟨t, ht, h a t hq⟩) fun s _ ⟨t, ht, hq⟩ => ⟨t, ht, hs s t hq⟩

/-- One run after another tells one trace after the other. -/
theorem bind (hx : Tells id x Q S)
    (hg : ∀ a t, Q a t → Tells id (g a) (fun b u => R b (t ++ u)) fun s u => S s (t ++ u)) :
    Tells id (x >>= g) R S := by
  intro w
  refine Meets.bind (hx w) ?_
  rintro a w₁ ⟨t, ht, hq⟩
  refine (hg a t hq w₁).imp ?_ ?_
  · rintro b w₂ ⟨u, hu, hr⟩
    exact ⟨t ++ u, ht.trans hu, hr⟩
  · rintro s w₂ ⟨u, hu, hr⟩
    exact ⟨t ++ u, ht.trans hu, hr⟩

/-- A report is told before what follows. -/
theorem emit_bind {g : Unit → Run β} {fact : Event.Fact}
    (h : Tells id (g ()) (fun b u => R b (fact :: u)) fun s u => S s (fact :: u)) :
    Tells id (Run.emit id fact >>= g) R S := by
  intro w
  have ht : Told id [fact] w { w with events := w.events ++ [⟨id, fact⟩] } := rfl
  refine Meets.emit_bind ((h _).imp ?_ ?_)
  · rintro b w₂ ⟨u, hu, hr⟩
    exact ⟨fact :: u, ht.trans hu, hr⟩
  · rintro s w₂ ⟨u, hu, hr⟩
    exact ⟨fact :: u, ht.trans hu, hr⟩

/-- A new state is told like any fact. -/
theorem enter_bind {g : Unit → Run β} {state : RunState}
    (h : Tells id (g ()) (fun b u => R b (.stateChanged state :: u)) fun s u =>
      S s (.stateChanged state :: u)) :
    Tells id (Run.enter id state >>= g) R S := emit_bind h

/-- A wait tells nothing, and is stopped only as its limits allow. -/
theorem wait {Q : Unit → List Event.Fact → Prop} {limits : Limits} {what : Wait} {time : Duration}
    (h : Q () []) (hs : ∀ s, limits.Allow s → S s []) :
    Tells id (Run.wait limits what time) Q S := fun _ =>
  Meets.wait ⟨[], .of_eq rfl, h⟩ fun s ha => ⟨[], .of_eq rfl, hs s ha⟩

/-- An exchange with the network tells nothing. -/
theorem exchange {Q : Arrival → List Event.Fact → Prop} {url : Url} {sent : Sent}
    (h : ∀ met, Q met []) : Tells id (Run.exchange url sent) Q S := fun _ =>
  Meets.exchange fun _ => ⟨[], .of_eq rfl, h _⟩

/-- What has been told before a stop stays told. -/
theorem tryCatch {h : Stop → Run α} (hx : Tells id x Q S)
    (hg : ∀ s t, S s t → Tells id (h s) (fun a u => Q a (t ++ u)) fun s' u => S' s' (t ++ u)) :
    Tells id (MonadExcept.tryCatch x h) Q S' := by
  intro w
  refine Meets.tryCatch (hx w) ?_
  rintro s w₁ ⟨t, ht, hs⟩
  refine (hg s t hs w₁).imp ?_ ?_
  · rintro a w₂ ⟨u, hu, hr⟩
    exact ⟨t ++ u, ht.trans hu, hr⟩
  · rintro s' w₂ ⟨u, hu, hr⟩
    exact ⟨t ++ u, ht.trans hu, hr⟩

end Tells
end Run
end AgentTool
