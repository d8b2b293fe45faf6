import AgentTool.Call
import AgentTool.Proofs.RunLaws
import Mathlib.Logic.Function.Iterate

/-!
# Attempts at a request

How an attempt ends is decided by the network alone: by whether it reaches the
address, and by the next reply in store.  So the attempts at a request end one
after the other in a way that the network fixes beforehand (`Network.ending`),
whatever the clock shows and whatever has been reported.

A policy makes attempts up to the first that is a success or an error that no
further attempt can mend, and at most its retries beyond the first
(`RetryPolicy.Last`).  What a call does is thereby fixed step by step
(`RetryPolicy.course`): the attempts up to the last one, and between two of them
the pause that the policy sets for the first of the two.

`attemptsInFull_course` says that a call takes these steps, one after the other,
and is stopped where they are stopped.  `play_course_meets` says what they leave
behind: the network after the last attempt, a report of each attempt, and the
request as often as it was sent.
-/

namespace AgentTool

namespace Network

/-- How an attempt at a request ends, and the network after it. -/
def attempt (config : Config) (r : Request) (n : Network) :
    Except AttemptError (Nat × List UInt8) × Network :=
  match Sent.ofRequest config.userAgent r with
  | .error e => (.error e, n)
  | .ok _ =>
    (((n.exchange r.url).1.within config.timeout).reply.result r.method, (n.exchange r.url).2)

/-- The network after a number of attempts at a request. -/
def after (config : Config) (r : Request) (n : Network) (k : Nat) : Network :=
  (fun m => (attempt config r m).2)^[k] n

/-- How the attempt counted `k` from zero ends. -/
def ending (config : Config) (r : Request) (n : Network) (k : Nat) :
    Except AttemptError (Nat × List UInt8) :=
  (attempt config r (n.after config r k)).1

/-- What an attempt at a request sends: the request, if it can be written and reaches its address.
-/
def sends (config : Config) (r : Request) (n : Network) : List Sent :=
  match Sent.ofRequest config.userAgent r with
  | .error _ => []
  | .ok s => if n.reaches r.url then [s] else []

/-- An attempt changes no address. -/
theorem attempt_reaches (config : Config) (r : Request) (n : Network) :
    (n.attempt config r).2.reaches = n.reaches := by
  unfold attempt exchange
  cases Sent.ofRequest config.userAgent r with
  | error e => rfl
  | ok s => by_cases h : n.reaches r.url <;> simp only [h] <;> rfl

/-- Every attempt at a request sends the same. -/
theorem sends_after_one (config : Config) (r : Request) (n : Network) :
    (n.after config r 1).sends config r = n.sends config r := by
  unfold sends
  rw [show (n.after config r 1).reaches = n.reaches from attempt_reaches config r n]

end Network

/-- The delay that an attempt asks for before another one. -/
def askedBy : Except AttemptError (Nat × List UInt8) → Option Duration
  | .error (.status _ asked _) => asked
  | _ => none

/-- A step of a call. -/
inductive CallStep where
  /-- the attempt counted from zero -/
  | attempt (n : Nat)
  | pause (time : Duration)
  deriving DecidableEq

namespace RetryPolicy

/-- Whether another attempt may mend what an attempt came to. -/
def again (p : RetryPolicy) : Except AttemptError (Nat × List UInt8) → Bool
  | .ok _ => false
  | .error e => (p.retryable e).1

/-- The attempt at position `k` is the last one, of those that would end as `endings` says, when
`left` attempts may follow the first. -/
def Last (p : RetryPolicy) (left : Nat) (endings : Nat → Except AttemptError (Nat × List UInt8))
    (k : Nat) : Prop :=
  k ≤ left ∧ (∀ j < k, p.again (endings j) = true) ∧ (k = left ∨ p.again (endings k) = false)

/-- The steps of a call that makes the attempts counted from `n` to `n + k`, when they end as
`endings` says: between two attempts the pause that is set for the first of them. -/
def course (p : RetryPolicy) (endings : Nat → Except AttemptError (Nat × List UInt8)) (n k : Nat) :
    List CallStep :=
  (List.range k).flatMap (fun j => [.attempt (n + j), .pause (p.delay (n + j) (askedBy (endings j)))])
    ++ [.attempt (n + k)]

variable {p : RetryPolicy} {left k l : Nat}
  {endings : Nat → Except AttemptError (Nat × List UInt8)}

/-- No attempt that may be the last one is behind another. -/
theorem Last.le (hk : p.Last left endings k) (hl : p.Last left endings l) : k ≤ l := by
  obtain ⟨hk₁, hk₂, -⟩ := hk
  obtain ⟨-, -, rfl | hl₃⟩ := hl
  · exact hk₁
  · by_contra h
    rw [hk₂ l (by omega)] at hl₃
    exact absurd hl₃ (by simp)

/-- There is only one last attempt. -/
theorem Last.unique (hk : p.Last left endings k) (hl : p.Last left endings l) : k = l :=
  Nat.le_antisymm (hk.le hl) (hl.le hk)

/-- With one attempt more before it the last one is counted one higher. -/
theorem Last.succ (h : p.again (endings 0) = true) (hk : p.Last left (fun j => endings (j + 1)) k) :
    p.Last (left + 1) endings (k + 1) := by
  obtain ⟨hk₁, hk₂, hk₃⟩ := hk
  refine ⟨by omega, fun j hj => ?_, hk₃.imp (by omega) id⟩
  cases j with
  | zero => exact h
  | succ j => exact hk₂ j (by omega)

/-- The last attempt, counted from the second one on. -/
theorem Last.pred (h : p.Last (left + 1) endings (k + 1)) :
    p.Last left (fun j => endings (j + 1)) k := by
  obtain ⟨hk₁, hk₂, hk₃⟩ := h
  exact ⟨by omega, fun j hj => hk₂ (j + 1) (by omega), hk₃.imp (by omega) id⟩

/-- A call of one attempt takes one step. -/
theorem course_zero {n : Nat} : p.course endings n 0 = [.attempt n] := rfl

/-- A call of several attempts takes one, pauses, and goes on with the others. -/
theorem course_succ {n : Nat} :
    p.course endings n (k + 1) = .attempt n :: .pause (p.delay n (askedBy (endings 0))) ::
      p.course (fun j => endings (j + 1)) (n + 1) k := by
  simp only [course, List.range_succ_eq_map, List.flatMap_cons, List.flatMap_map, Nat.add_zero,
    Nat.add_right_comm n 1, ← Nat.add_assoc]
  rfl

/-- There is a last attempt. -/
theorem exists_last (p : RetryPolicy) (left : Nat)
    (endings : Nat → Except AttemptError (Nat × List UInt8)) : ∃ k, p.Last left endings k := by
  induction left generalizing endings with
  | zero => exact ⟨0, Nat.le_refl 0, by omega, .inl rfl⟩
  | succ left ih =>
    by_cases h : p.again (endings 0) = true
    · obtain ⟨k, hk⟩ := ih fun j => endings (j + 1)
      exact ⟨k + 1, hk.succ h⟩
    · exact ⟨0, by omega, by omega, .inr (by simpa using h)⟩

/-- No pause of a call is longer than the longest one. -/
theorem delay_le_longest (p : RetryPolicy) (n : Nat) (asked : Option Duration) :
    p.delay n asked ≤ p.longest := by
  unfold delay
  generalize asked.getD (p.shortest.times (factor n)) = d
  show (if d ≤ p.longest then d else p.longest) ≤ p.longest
  split
  · assumption
  · exact Nat.le_refl _

/-- However its settings were written, a policy has three retries at most. -/
theorem ofConfig_retries_le (c : Config) : (ofConfig c).retries ≤ 3 := Nat.min_le_right _ _

/-- Before its retries are used up, the policy goes on exactly after an error that may be mended. -/
theorem next?_isSome {e : AttemptError} {n : Nat} (hn : n < p.retries) :
    (p.next? e n).isSome = (p.retryable e).1 := by
  unfold next?
  cases h : (p.retryable e).1 <;> simp [h, hn]

/-- The policy goes on after the pause for the attempt. -/
theorem next?_eq_some {e : AttemptError} {n : Nat} {delay : Duration}
    (h : p.next? e n = some delay) : delay = p.delay n (askedBy (.error e)) := by
  have hd : delay = p.delay n (p.retryable e).2 := by
    unfold next? at h
    split at h
    split at h
    · simp_all
    · cases h
  cases e <;> exact hd

end RetryPolicy

/-- What a call comes to by its last attempt. -/
def concluded : Except AttemptError (Nat × List UInt8) → Except CallFailure (Nat × Json)
  | .ok (status, bytes) => Run.readReply status bytes
  | .error e => .error e.failure

/-- The reports of the attempts counted from `n` to `n + k`. -/
def attemptReports (site : CallSite) (endings : Nat → Except AttemptError (Nat × List UInt8))
    (n k : Nat) : List Event :=
  (List.range (k + 1)).map fun j =>
    ⟨site.invocation, .webhookAttempt site.webhook (n + j + 1) (statusOf? (endings j))⟩

/-- The report of the first attempt stands before the reports of the others. -/
theorem attemptReports_succ {site : CallSite}
    {endings : Nat → Except AttemptError (Nat × List UInt8)} {n k : Nat} :
    attemptReports site endings n (k + 1) =
      ⟨site.invocation, .webhookAttempt site.webhook (n + 1) (statusOf? (endings 0))⟩ ::
        attemptReports site (fun j => endings (j + 1)) (n + 1) k := by
  simp only [attemptReports, List.range_succ_eq_map (n := k + 1), List.map_cons, List.map_map]
  congr 1
  refine List.map_congr_left fun j _ => ?_
  simp only [Function.comp_apply, Nat.succ_eq_add_one, show n + (j + 1) = n + 1 + j by omega]

namespace Run

variable {site : CallSite} {r : Request} {w : World}

/-- What is kept of the end of a call is what the attempt comes to. -/
theorem kept_conclude (n : Nat) (ending : Except AttemptError (Nat × List UInt8)) :
    kept (conclude n ending) = concluded ending := by
  rcases ending with e | ⟨status, bytes⟩
  · rfl
  · simp only [conclude, concluded]
    cases readReply status bytes <;> rfl

/-- The last attempt that is left. -/
theorem attempts_zero (n : Nat) :
    attempts site r n 0 = do
      match ← attemptReported site r n with
      | .ok (status, bytes) => return readReply status bytes
      | .error e => return .error e.failure := by
  unfold attempts attemptsInFull
  simp only [bind_assoc, pure_bind, kept_conclude]
  congr 1
  funext ending
  rcases ending with e | ⟨status, bytes⟩ <;> rfl

/-- An attempt that others may follow. -/
theorem attempts_succ (n left : Nat) :
    attempts site r n (left + 1) = do
      match ← attemptReported site r n with
      | .ok (status, bytes) => return readReply status bytes
      | .error e =>
        match (RetryPolicy.ofConfig site.config).next? e n with
        | some delay =>
          wait site.limits .delay delay
          attempts site r (n + 1) left
        | none => return .error e.failure := by
  unfold attempts
  rw [attemptsInFull]
  simp only [bind_assoc]
  congr 1
  funext ending
  rcases ending with e | ⟨status, bytes⟩
  · cases hd : (RetryPolicy.ofConfig site.config).next? e n with
    | none => simp only [hd, pure_bind, kept_conclude]; rfl
    | some delay => simp only [hd, bind_assoc]
  · simp only [pure_bind, kept_conclude]; rfl

/-- A call is the attempts at its request. -/
theorem call_eq (h : Webhook) (scopes : Scopes) :
    call site h scopes = match h.prepare scopes with
      | .error f => return .error ⟨f, none⟩
      | .ok r => attempts site r 0 (RetryPolicy.ofConfig site.config).retries := by
  unfold call callInFull
  cases h.prepare scopes <;> rfl

/-- An attempt ends as the network decides, and is not reported by itself. -/
theorem attempt_meets {config : Config} {limits : Limits} :
    (Run.attempt config limits r).Meets w
      (fun ending w' => ending = (w.network.attempt config r).1 ∧
        w'.network = (w.network.attempt config r).2 ∧ w'.events = w.events ∧
        w'.sent = w.sent ++ w.network.sends config r)
      (fun s _ => limits.Allow s) := by
  unfold Run.attempt Network.attempt Network.sends
  cases Sent.ofRequest config.userAgent r with
  | error e => exact Meets.pure ⟨rfl, rfl, rfl, (List.append_nil _).symm⟩
  | ok s =>
    refine Meets.bind (Meets.exchange_sends ⟨rfl, rfl, rfl, rfl⟩ : Meets _ w
      (fun met w' => met = (w.network.exchange r.url).1 ∧
        w'.network = (w.network.exchange r.url).2 ∧ w'.events = w.events ∧
        w'.sent = w.sent ++ if w.network.reaches r.url then [s] else []) _) ?_
    rintro _ w₁ ⟨rfl, hn, he, hs⟩
    refine Meets.bind (Meets.wait (Q := fun _ w' => w'.network = w₁.network ∧
      w'.events = w₁.events ∧ w'.sent = w₁.sent) ⟨rfl, rfl, rfl⟩ fun _ h => h) ?_
    rintro _ w₂ ⟨hn₂, he₂, hs₂⟩
    exact Meets.pure ⟨rfl, hn₂.trans hn, he₂.trans he, hs₂.trans hs⟩

/-- An attempt is reported with its number and the status that it shows. -/
theorem attemptReported_meets {n : Nat} :
    (attemptReported site r n).Meets w
      (fun ending w' => ending = w.network.ending site.config r 0 ∧
        w'.network = w.network.after site.config r 1 ∧
        w'.events = w.events ++ attemptReports site (w.network.ending site.config r) n 0 ∧
        w'.sent = w.sent ++ w.network.sends site.config r)
      (fun s _ => site.limits.Allow s) := by
  refine Meets.bind attempt_meets ?_
  rintro _ w₁ ⟨rfl, hn, he, hs⟩
  refine Meets.emit_bind ?_
  exact Meets.pure ⟨rfl, hn, by rw [← he]; rfl, hs⟩

/-- Takes the steps of a call one after the other. -/
def play (site : CallSite) (r : Request) : List CallStep → Run Unit
  | [] => return
  | .attempt n :: steps => do
    let _ ← attemptReported site r n
    play site r steps
  | .pause time :: steps => do
    wait site.limits .delay time
    play site r steps

/-- **A call takes the steps of its course.**  From the attempt counted `n` on, with `left` more
to follow it, the attempts come to what the steps up to the last attempt come to, also where
these are stopped, and conclude by the last attempt. -/
theorem attemptsInFull_course {n left k : Nat}
    (hn : n + left = (RetryPolicy.ofConfig site.config).retries)
    (hk : (RetryPolicy.ofConfig site.config).Last left (w.network.ending site.config r) k) :
    (attemptsInFull site r n left).exec w = (do
      play site r ((RetryPolicy.ofConfig site.config).course (w.network.ending site.config r) n k)
      return conclude (n + k + 1) (w.network.ending site.config r k)).exec w := by
  induction left generalizing n k w with
  | zero =>
    obtain rfl : k = 0 := Nat.le_zero.1 hk.1
    simp only [attemptsInFull, RetryPolicy.course_zero, play, bind_assoc, pure_bind]
    refine exec_bind_congr attemptReported_meets ?_
    rintro _ w₁ ⟨rfl, -, -, -⟩
    rfl
  | succ left ih =>
    cases k with
    | zero =>
      have hlast : (RetryPolicy.ofConfig site.config).again (w.network.ending site.config r 0) =
          false := hk.2.2.resolve_left (by omega)
      simp only [attemptsInFull, RetryPolicy.course_zero, play, bind_assoc, pure_bind]
      refine exec_bind_congr attemptReported_meets ?_
      rintro ending w₁ ⟨rfl, -, -, -⟩
      cases he : w.network.ending site.config r 0 with
      | ok reply => rfl
      | error e =>
        rw [he] at hlast
        have hnext := RetryPolicy.next?_isSome (p := RetryPolicy.ofConfig site.config) (e := e)
          (n := n) (by omega)
        rw [show ((RetryPolicy.ofConfig site.config).retryable e).1 = false from hlast,
          Option.isSome_eq_false_iff, Option.isNone_iff_eq_none] at hnext
        simp only [hnext]
    | succ k =>
      have hagain := hk.2.1 0 (Nat.succ_pos k)
      simp only [attemptsInFull, RetryPolicy.course_succ, play, bind_assoc]
      refine exec_bind_congr attemptReported_meets ?_
      rintro ending w₁ ⟨rfl, hw₁, -, -⟩
      cases he : w.network.ending site.config r 0 with
      | ok reply => rw [he] at hagain; cases hagain
      | error e =>
        rw [he] at hagain
        have hnext := RetryPolicy.next?_isSome (p := RetryPolicy.ofConfig site.config) (e := e)
          (n := n) (by omega)
        rw [show ((RetryPolicy.ofConfig site.config).retryable e).1 = true from hagain] at hnext
        obtain ⟨delay, hd⟩ := Option.isSome_iff_exists.1 hnext
        obtain rfl := RetryPolicy.next?_eq_some hd
        simp only [hd]
        refine exec_bind_congr (Meets.wait (Q := fun _ w' => w'.network = w₁.network)
          (S := fun _ _ => True) rfl fun _ _ => trivial) ?_
        rintro - w₂ hw₂
        -- the endings that are left are those of the first network, one attempt further
        have hnet : w₂.network = w.network.after site.config r 1 := hw₂.trans hw₁
        have hk₂ : (RetryPolicy.ofConfig site.config).Last left (w₂.network.ending site.config r) k := by
          rw [hnet]
          exact hk.pred
        rw [ih (by omega) hk₂, hnet, show n + (k + 1) + 1 = n + 1 + k + 1 by omega]
        rfl

/-- **What the course of a call leaves behind.** -/
theorem play_course_meets {p : RetryPolicy} {n k : Nat} :
    (play site r (p.course (w.network.ending site.config r) n k)).Meets w
      (fun _ w' => w'.network = w.network.after site.config r (k + 1) ∧
        w'.events = w.events ++ attemptReports site (w.network.ending site.config r) n k ∧
        w'.sent = w.sent ++ (List.replicate (k + 1) (w.network.sends site.config r)).flatten)
      (fun s _ => site.limits.Allow s) := by
  induction k generalizing n w with
  | zero =>
    refine Meets.bind attemptReported_meets ?_
    rintro _ w₁ ⟨-, hn, he, hs⟩
    exact Meets.pure ⟨hn, he, by simpa using hs⟩
  | succ k ih =>
    rw [RetryPolicy.course_succ]
    refine Meets.bind attemptReported_meets ?_
    rintro _ w₁ ⟨-, hn, he, hs⟩
    refine Meets.bind (Meets.wait (Q := fun _ w' => w'.network = w₁.network ∧
      w'.events = w₁.events ∧ w'.sent = w₁.sent) ⟨rfl, rfl, rfl⟩ fun _ h => h) ?_
    rintro _ w₂ ⟨hn₂, he₂, hs₂⟩
    have hnet : w₂.network = w.network.after site.config r 1 := hn₂.trans hn
    have hrest := ih (n := n + 1) (w := w₂)
    rw [hnet] at hrest
    refine hrest.mono ?_
    rintro _ w₃ ⟨hn₃, he₃, hs₃⟩
    refine ⟨hn₃, ?_, ?_⟩
    · rw [he₃, he₂, he, attemptReports_succ, List.append_assoc]
      rfl
    · rw [hs₃, hs₂, hs, Network.sends_after_one, List.replicate_succ (n := k + 1),
        List.flatten_cons, List.append_assoc]

/-- **The attempts of a call.**  The result is concluded from the last attempt, the network is the
one after it, exactly the attempts up to it have been reported, and each has sent the request. -/
theorem attemptsInFull_meets {n left k : Nat}
    (hn : n + left = (RetryPolicy.ofConfig site.config).retries)
    (hk : (RetryPolicy.ofConfig site.config).Last left (w.network.ending site.config r) k) :
    (attemptsInFull site r n left).Meets w
      (fun result w' => result = conclude (n + k + 1) (w.network.ending site.config r k) ∧
        w'.network = w.network.after site.config r (k + 1) ∧
        w'.events = w.events ++ attemptReports site (w.network.ending site.config r) n k ∧
        w'.sent = w.sent ++ (List.replicate (k + 1) (w.network.sends site.config r)).flatten)
      (fun s _ => site.limits.Allow s) := by
  refine Meets.of_exec_eq (attemptsInFull_course hn hk) (Meets.bind play_course_meets ?_)
  rintro _ w' h
  exact Meets.pure ⟨rfl, h⟩

/-- **A call makes attempts up to the last one.**  From the attempt counted `n` on, with `left`
more to follow it: the result is that of the last attempt, the network is the one after it, and
exactly the attempts up to it have been reported. -/
theorem attempts_meets {n left : Nat}
    (hn : n + left = (RetryPolicy.ofConfig site.config).retries) :
    (attempts site r n left).Meets w
      (fun result w' => ∃ k, (RetryPolicy.ofConfig site.config).Last left
          (w.network.ending site.config r) k ∧
        result = concluded (w.network.ending site.config r k) ∧
        w'.network = w.network.after site.config r (k + 1) ∧
        w'.events = w.events ++ attemptReports site (w.network.ending site.config r) n k)
      (fun _ _ => ¬site.limits.IsOpen) := by
  obtain ⟨k, hk⟩ := (RetryPolicy.ofConfig site.config).exists_last left
    (w.network.ending site.config r)
  have hfull := (attemptsInFull_meets hn hk).imp (fun _ _ h => h) fun _ _ hs => hs.not_isOpen
  refine Meets.bind hfull ?_
  rintro _ w₁ ⟨rfl, hnet, he, -⟩
  exact Meets.pure ⟨k, hk, kept_conclude _ _, hnet, he⟩

end Run
end AgentTool
