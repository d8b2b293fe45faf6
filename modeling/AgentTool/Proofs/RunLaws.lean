import AgentTool.Network
import Mathlib.Tactic.Common

/-!
# Laws of runs

A run is a function of the world: it comes to a value or to a stop, and leaves
another world.  `Run.Meets` says what a run may come to, value and stop apart,
and has one rule for each way to make a run out of smaller ones, so that no
proof about the engine unfolds the monad.

| run | rule |
| --- | --- |
| `pure` | `Meets.pure` |
| one run after another | `Meets.bind` |
| a report before another run | `Meets.emit_bind`, `Meets.enter_bind` |
| a wait | `Meets.wait`: it counts, takes its time, and may be stopped |
| an exchange with the network | `Meets.exchange`: the network answers by itself |

A wait is stopped only as its limits allow (`Limits.Allow`): at the deadline, if there is
one, and by a caller who gives up.  Limits that allow no stop are open (`Limits.IsOpen`).

`Run.Reporting` is for what holds of every report and every result of a run, also if
it is stopped, from any world with what is left of a network: a run only takes replies
from it (`Network.IsRestOf`).
-/

namespace AgentTool

/-- Limits that stop no run: there is no deadline, and the caller never gives up. -/
def Limits.IsOpen (l : Limits) : Prop := l.deadline = none ∧ ∀ n what, l.cancels n what = false

/-- A stop that limits may cause. -/
def Limits.Allow (l : Limits) : Stop → Prop
  | .deadline => l.deadline ≠ none
  | .cancelled => ∃ n what, l.cancels n what = true

/-- Open limits allow no stop. -/
theorem Limits.Allow.not_isOpen {l : Limits} {s : Stop} (h : l.Allow s) : ¬l.IsOpen := by
  rintro ⟨hd, hc⟩
  cases s with
  | deadline => exact h hd
  | cancelled =>
    obtain ⟨n, what, ht⟩ := h
    rw [hc n what] at ht
    cases ht

/-- What a request to an address meets, and the network after it. -/
def Network.exchange (n : Network) (url : Url) : Arrival × Network :=
  if n.reaches url then
    (n.replies.head?.getD { reply := .closed }, { n with replies := n.replies.tail })
  else ({ reply := .closed }, n)

/-- What is left of a network: it reaches the same addresses, and has the last of its replies. -/
structure Network.IsRestOf (n whole : Network) : Prop where
  reaches : n.reaches = whole.reaches
  replies : n.replies <:+ whole.replies

/-- Of a network from which nothing has been taken everything is left. -/
theorem Network.IsRestOf.refl (n : Network) : n.IsRestOf n := ⟨rfl, List.suffix_rfl⟩

/-- What is left after a request is left of the same network. -/
theorem Network.IsRestOf.exchange {n whole : Network} (h : n.IsRestOf whole) (url : Url) :
    (n.exchange url).2.IsRestOf whole := by
  unfold Network.exchange
  split
  · exact ⟨h.reaches, (List.tail_suffix _).trans h.replies⟩
  · exact h

/-- A request meets a closed connection, or one of the replies in store at an address in reach. -/
theorem Network.IsRestOf.exchange_mem {n whole : Network} (h : n.IsRestOf whole) (url : Url) :
    (n.exchange url).1 = { reply := .closed } ∨
      whole.reaches url = true ∧ (n.exchange url).1 ∈ whole.replies := by
  unfold Network.exchange
  split
  · rename_i hr
    cases hs : n.replies with
    | nil => exact .inl rfl
    | cons a as =>
      refine .inr ⟨by rw [← h.reaches, hr], h.replies.subset ?_⟩
      rw [hs]
      exact List.mem_cons_self
  · exact .inl rfl

/-- The world after a wait. -/
def World.waited (w : World) (limits : Limits) (time : Duration) : World :=
  { w with waits := w.waits + 1, elapsed := limits.cutOff (w.elapsed.plus time) }

namespace Run

variable {α β : Type} {w : World} {limits : Limits} {S : Stop → World → Prop}

/-- What a run comes to in a world, and the world after it. -/
def exec (x : Run α) (w : World) : Except Stop α × World := x.run w

/-- A run from `w` comes to a value as `Q` allows, or is stopped as `S` allows. -/
def Meets (x : Run α) (w : World) (Q : α → World → Prop) (S : Stop → World → Prop) : Prop :=
  match x.exec w with
  | (.ok a, w') => Q a w'
  | (.error s, w') => S s w'

/-- One run after another goes on from where the first one ends. -/
theorem exec_bind (x : Run α) (g : α → Run β) (w : World) :
    (x >>= g).exec w = match x.exec w with
      | (.ok a, w') => (g a).exec w'
      | (.error s, w') => (.error s, w') := by
  show (ExceptT.bind x g).run w = _
  simp only [exec, ExceptT.run, ExceptT.bind, ExceptT.mk, bind, StateT.bind]
  rcases (x : StateM World (Except Stop α)) w with ⟨_ | a, w'⟩ <;> rfl

/-- A run that is taken up after a stop goes on from where it was stopped. -/
theorem exec_tryCatch (x : Run α) (g : Stop → Run α) (w : World) :
    (tryCatch x g).exec w = match x.exec w with
      | (.ok a, w') => (.ok a, w')
      | (.error s, w') => (g s).exec w' := by
  show (ExceptT.tryCatch x g).run w = _
  simp only [exec, ExceptT.run, ExceptT.tryCatch, ExceptT.mk, bind, StateT.bind]
  rcases (x : StateM World (Except Stop α)) w with ⟨_ | a, w'⟩ <;> rfl

/-- A wait counts and takes its time; the caller who gives up is asked before the deadline. -/
theorem exec_wait (limits : Limits) (what : Wait) (time : Duration) (w : World) :
    (wait limits what time).exec w =
      if limits.cancels w.waits what = true then (.error .cancelled, w.waited limits time)
      else if (limits.deadline.any fun bound => decide (bound ≤ w.elapsed.plus time)) = true then
        (.error .deadline, w.waited limits time)
      else (.ok (), w.waited limits time) := by
  have he : (wait limits what time).exec w =
      ((if limits.cancels w.waits what then throw .cancelled
        else if limits.deadline.any fun bound => decide (bound ≤ w.elapsed.plus time) then
          throw .deadline
        else Pure.pure ()) : Run Unit).exec (w.waited limits time) := rfl
  rw [he]
  split_ifs
  · rfl
  · rfl
  · rfl

/-- What follows a run may be exchanged for what does the same wherever the run may end. -/
theorem exec_bind_congr {x : Run α} {g g' : α → Run β} {Q : α → World → Prop} (hx : x.Meets w Q S)
    (h : ∀ a w', Q a w' → (g a).exec w' = (g' a).exec w') : (x >>= g).exec w = (x >>= g').exec w := by
  unfold Meets at hx
  rw [exec_bind, exec_bind]
  rcases he : x.exec w with ⟨s | a, w'⟩
  · rfl
  · rw [he] at hx
    exact h a w' hx

/-- Runs that do the same come to the same. -/
theorem Meets.of_exec_eq {x y : Run α} {Q : α → World → Prop} (h : x.exec w = y.exec w)
    (hy : y.Meets w Q S) : x.Meets w Q S := by
  unfold Meets at hy ⊢
  rwa [h]

namespace Meets

/-- A run comes to what it comes to. -/
theorem self (x : Run α) (w : World) :
    x.Meets w (fun a w' => x.exec w = (.ok a, w')) fun s w' => x.exec w = (.error s, w') := by
  unfold Meets
  rcases x.exec w with ⟨s | a, w'⟩
  · rfl
  · rfl

/-- A run that only returns leaves the world as it is. -/
theorem pure {Q : α → World → Prop} {a : α} (h : Q a w) : (Pure.pure a : Run α).Meets w Q S := h

/-- One run after another: the second starts wherever the first may end. -/
theorem bind {x : Run α} {g : α → Run β} {Q : α → World → Prop} {R : β → World → Prop}
    (hx : x.Meets w Q S) (hg : ∀ a w', Q a w' → (g a).Meets w' R S) : (x >>= g).Meets w R S := by
  unfold Meets at hx ⊢
  rw [exec_bind]
  rcases he : x.exec w with ⟨s | a, w'⟩
  · rw [he] at hx
    exact hx
  · rw [he] at hx
    exact hg a w' hx

/-- A run that comes to less may be said to come to more, as a value and when it is stopped. -/
theorem imp {x : Run α} {Q Q' : α → World → Prop} {S' : Stop → World → Prop} (hx : x.Meets w Q S)
    (h : ∀ a w', Q a w' → Q' a w') (hs : ∀ s w', S s w' → S' s w') : x.Meets w Q' S' := by
  unfold Meets at hx ⊢
  rcases he : x.exec w with ⟨s | a, w'⟩
  · rw [he] at hx
    exact hs s w' hx
  · rw [he] at hx
    exact h a w' hx

/-- What follows from the value of a run may be said of the run. -/
theorem mono {x : Run α} {Q Q' : α → World → Prop} (hx : x.Meets w Q S)
    (h : ∀ a w', Q a w' → Q' a w') : x.Meets w Q' S :=
  hx.imp h fun _ _ hs => hs

/-- After a report its event has been added, and nothing else has changed. -/
theorem emit_bind {g : Unit → Run β} {R : β → World → Prop} {id : String} {fact : Event.Fact}
    (h : (g ()).Meets { w with events := w.events ++ [⟨id, fact⟩] } R S) :
    (Run.emit id fact >>= g).Meets w R S := h

/-- A new state is reported like any event. -/
theorem enter_bind {g : Unit → Run β} {R : β → World → Prop} {id : String} {state : RunState}
    (h : (g ()).Meets { w with events := w.events ++ [⟨id, .stateChanged state⟩] } R S) :
    (Run.enter id state >>= g).Meets w R S := h

/-- A wait counts and takes its time; it is stopped only as its limits allow. -/
theorem wait {Q : Unit → World → Prop} {what : Wait} {time : Duration}
    (h : Q () (w.waited limits time)) (hs : ∀ s, limits.Allow s → S s (w.waited limits time)) :
    (Run.wait limits what time).Meets w Q S := by
  unfold Meets
  rw [exec_wait]
  by_cases hc : limits.cancels w.waits what = true
  · rw [if_pos hc]
    exact hs _ ⟨w.waits, what, hc⟩
  · rw [if_neg hc]
    by_cases hd : (limits.deadline.any fun bound => decide (bound ≤ w.elapsed.plus time)) = true
    · rw [if_pos hd]
      exact hs _ fun hn => by simp [hn] at hd
    · rw [if_neg hd]
      exact h

/-- An exchange comes to what the network answers; a request is sent if it reaches its address. -/
theorem exchange_sends {Q : Arrival → World → Prop} {url : Url} {s : Sent}
    (h : Q (w.network.exchange url).1 { w with
      sent := w.sent ++ if w.network.reaches url then [s] else []
      network := (w.network.exchange url).2 }) :
    (Run.exchange url s).Meets w Q S := by
  have he : (Run.exchange url s).exec w =
      (if w.network.reaches url then do
        set { w with
          sent := w.sent ++ [s]
          network := { w.network with replies := w.network.replies.tail } }
        return w.network.replies.head?.getD { reply := .closed }
      else return { reply := .closed } : Run Arrival).exec w := rfl
  unfold Meets
  rw [he]
  unfold Network.exchange at h
  by_cases hr : w.network.reaches url
  · simp only [if_pos hr] at h ⊢
    exact h
  · simp only [if_neg hr, List.append_nil] at h ⊢
    exact h

/-- An exchange comes to what the network answers, whatever has been sent. -/
theorem exchange {Q : Arrival → World → Prop} {url : Url} {s : Sent}
    (h : ∀ sent, Q (w.network.exchange url).1 { w with sent, network := (w.network.exchange url).2 }) :
    (Run.exchange url s).Meets w Q S := exchange_sends (h _)

/-- A run that is taken up again after a stop. -/
theorem tryCatch {x : Run α} {g : Stop → Run α} {Q : α → World → Prop} {T : Stop → World → Prop}
    (hx : x.Meets w Q T) (hg : ∀ s w', T s w' → (g s).Meets w' Q S) :
    (MonadExcept.tryCatch x g).Meets w Q S := by
  unfold Meets at hx ⊢
  rw [exec_tryCatch]
  rcases hw : x.exec w with ⟨s | a, w'⟩
  · rw [hw] at hx
    exact hg s w' hx
  · rw [hw] at hx
    exact hx

end Meets
end Run

/-- From `w` to `w'` events have been added, and each of them tells a fact with a property. -/
def World.Reports (P : Event.Fact → Prop) (w w' : World) : Prop :=
  ∃ new, w'.events = w.events ++ new ∧ ∀ e ∈ new, P e.fact

namespace World.Reports

variable {P P' : Event.Fact → Prop} {w w₁ w₂ : World}

/-- Nothing is reported where no event is added. -/
theorem of_eq (h : w₁.events = w.events) : w.Reports P w₁ := ⟨[], by simp [h], by simp⟩

/-- What is reported by one run and then by another is reported by both. -/
theorem trans (h₁ : w.Reports P w₁) (h₂ : w₁.Reports P w₂) : w.Reports P w₂ := by
  obtain ⟨new₁, he₁, hp₁⟩ := h₁
  obtain ⟨new₂, he₂, hp₂⟩ := h₂
  refine ⟨new₁ ++ new₂, by rw [he₂, he₁, List.append_assoc], fun e he => ?_⟩
  rcases List.mem_append.1 he with he | he
  · exact hp₁ e he
  · exact hp₂ e he

/-- Reports of some kind are reports of any kind that admits more. -/
theorem mono (h : w.Reports P w₁) (hp : ∀ fact, P fact → P' fact) : w.Reports P' w₁ := by
  obtain ⟨new, he, hm⟩ := h
  exact ⟨new, he, fun e hm' => hp e.fact (hm e hm')⟩

/-- One more report. -/
theorem report {e : Event} (h : w.Reports P w₁) (he : P e.fact) :
    w.Reports P { w₁ with events := w₁.events ++ [e] } := by
  refine h.trans ⟨[e], rfl, fun e' he' => ?_⟩
  obtain rfl := List.mem_singleton.1 he'
  exact he

end World.Reports

namespace Run

variable {α β : Type} {n : Network} {P : Event.Fact → Prop}

/-- From any world that has what is left of a network a run reports only facts with the property
`P`, also if it is stopped, and comes only to values with the property `Q`; what it leaves of the
network is a rest of it again. -/
def Reporting (n : Network) (P : Event.Fact → Prop) (x : Run α) (Q : α → Prop) : Prop :=
  ∀ w, w.network.IsRestOf n → x.Meets w
    (fun a w' => (w.Reports P w' ∧ w'.network.IsRestOf n) ∧ Q a)
    (fun _ w' => w.Reports P w' ∧ w'.network.IsRestOf n)

namespace Reporting

variable {Q : α → Prop} {Q' : β → Prop} {x : Run α} {g : α → Run β}

/-- A value reports nothing. -/
theorem pure {a : α} (h : Q a) : Reporting n P (Pure.pure a : Run α) Q := fun _ hn =>
  Meets.pure ⟨⟨.of_eq rfl, hn⟩, h⟩

/-- A stop reports nothing. -/
theorem throw {s : Stop} : Reporting n P (MonadExcept.throw s : Run α) Q := fun _ hn =>
  ⟨.of_eq rfl, hn⟩

/-- One run after another reports what both report. -/
theorem bind (hx : Reporting n P x Q) (hg : ∀ a, Q a → Reporting n P (g a) Q') :
    Reporting n P (x >>= g) Q' := fun w hn =>
  Meets.bind (hx w hn) fun a w₁ ha => (hg a ha.2 w₁ ha.1.2).imp
    (fun _ _ hb => ⟨⟨ha.1.1.trans hb.1.1, hb.1.2⟩, hb.2⟩) fun _ _ hs => ⟨ha.1.1.trans hs.1, hs.2⟩

/-- Of the results of a run less may be said. -/
theorem mono {Q₂ : α → Prop} (hx : Reporting n P x Q) (h : ∀ a, Q a → Q₂ a) :
    Reporting n P x Q₂ :=
  fun w hn => (hx w hn).mono fun a _ ha => ⟨ha.1, h a ha.2⟩

/-- A report is of a fact with the property. -/
theorem emit {id : String} {fact : Event.Fact} (h : P fact) :
    Reporting n P (Run.emit id fact) fun _ => True := fun _ hn =>
  ⟨⟨(World.Reports.of_eq rfl).report h, hn⟩, trivial⟩

/-- To look at the world reports nothing. -/
theorem get : Reporting n P (MonadState.get : Run World) fun _ => True := fun _ hn =>
  ⟨⟨.of_eq rfl, hn⟩, trivial⟩

/-- A wait reports nothing. -/
theorem wait {limits : Limits} {what : Wait} {time : Duration} :
    Reporting n P (Run.wait limits what time) fun _ => True := fun _ hn =>
  Meets.wait ⟨⟨.of_eq rfl, hn⟩, trivial⟩ fun _ _ => ⟨.of_eq rfl, hn⟩

/-- An exchange reports nothing, and meets a closed connection or a reply of the network. -/
theorem exchange {url : Url} {s : Sent} :
    Reporting n P (Run.exchange url s) fun met =>
      met = { reply := .closed } ∨ n.reaches url = true ∧ met ∈ n.replies := fun _ hn =>
  Meets.exchange fun _ => ⟨⟨.of_eq rfl, hn.exchange url⟩, hn.exchange_mem url⟩

/-- A run that is taken up again after a stop reports what both runs report. -/
theorem tryCatch {h : Stop → Run α} (hx : Reporting n P x Q) (hg : ∀ s, Reporting n P (h s) Q) :
    Reporting n P (MonadExcept.tryCatch x h) Q := fun w hn =>
  Meets.tryCatch (hx w hn) fun s w₁ hr => (hg s w₁ hr.2).imp
    (fun _ _ hb => ⟨⟨hr.1.trans hb.1.1, hb.1.2⟩, hb.2⟩) fun _ _ hs => ⟨hr.1.trans hs.1, hs.2⟩

end Reporting
end Run
end AgentTool
