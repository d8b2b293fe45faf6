import AgentTool.Proofs.Attempts
import AgentTool.Proofs.StrictTemplates

/-!
# Calls of webhooks

A call of a webhook whose request can be prepared makes between one and four
attempts.  It goes on exactly after errors that may go away, and as long as the
policy has retries; the last attempt is the first one that settles the call, or
the one at which the retries are used up.

| the last attempt ends | the call comes to |
| --- | --- |
| with an object or an array | the status, that value and the number of attempts |
| with another body | an unparsable body, with the status |
| with a status that is no success | that status, with the body if it is an object or an array |
| at a timeout | a timeout |
| at the connection or within the body | a transport failure |
| before it is sent, or at a redirect that is not followed | an invalid request |

`callInFull_faithful` says so of the whole run: which steps are taken in which
order, how long each pause is, what has been reported and sent, and what the call
comes to.
-/

namespace AgentTool

/-- Bytes are the JSON text of a value, which is an object or an array. -/
def IsStructured (bytes : List UInt8) (body : Json) : Prop :=
  ∃ text, Text.ofUtf8? bytes = some text ∧ Json.read? (String.ofList text) = some body ∧
    ((∃ entries, body = .obj entries) ∨ ∃ items, body = .arr items)

/-- A body is read as a value exactly if it is the text of an object or an array. -/
theorem structured?_eq_some {bytes : List UInt8} {body : Json} :
    structured? bytes = some body ↔ IsStructured bytes body := by
  unfold structured? IsStructured
  cases Text.ofUtf8? bytes with
  | none => simp
  | some text =>
    simp only [Option.bind_some, Option.some.injEq, exists_eq_left']
    cases Json.read? (String.ofList text) with
    | none => simp
    | some v => cases v <;> grind

/-- A body is not read exactly if it is no such text. -/
theorem structured?_eq_none {bytes : List UInt8} :
    structured? bytes = none ↔ ∀ body, ¬IsStructured bytes body := by
  simp [← structured?_eq_some, Option.eq_none_iff_forall_ne_some]

namespace RetryPolicy

/-- An attempt settles a call: it is a success, or it fails in a way that another attempt cannot
mend.  Such are a request that cannot be written, a body that ends too early, and a status that
the policy does not name. -/
def Settles (p : RetryPolicy) : Except AttemptError (Nat × List UInt8) → Prop
  | .ok _ | .error (.unwritable _) | .error (.body _) => True
  | .error (.status code _ _) => code ∉ p.statuses
  | .error (.connection _) | .error .timeout => False

/-- No attempt follows one that settles the call. -/
theorem again_eq_false {p : RetryPolicy} {ending : Except AttemptError (Nat × List UInt8)} :
    p.again ending = false ↔ p.Settles ending := by
  rcases ending with (reason | reason | - | ⟨code, asked, bytes⟩ | reason) | reply <;>
    simp [again, retryable, Settles, retriesStatus]

/-- Another attempt may follow one that does not settle the call. -/
theorem again_eq_true {p : RetryPolicy} {ending : Except AttemptError (Nat × List UInt8)} :
    p.again ending = true ↔ ¬p.Settles ending := by
  rw [← again_eq_false, Bool.not_eq_false]

end RetryPolicy

/-- What a call comes to when its last attempt, counted from one, ends in some way. -/
inductive Concludes (attempts : Nat) :
    Except AttemptError (Nat × List UInt8) → Except FailedCall CallReply → Prop
  | reply {status : Nat} {bytes : List UInt8} {body : Json} : IsStructured bytes body →
    Concludes attempts (.ok (status, bytes)) (.ok { status, body, attempts })
  | unparsable {status : Nat} {bytes : List UInt8} : (∀ body, ¬IsStructured bytes body) →
    Concludes attempts (.ok (status, bytes))
      (.error { failure := .unparsableBody, status := some status })
  | refused {code : Nat} {asked : Option Duration} {bytes : List UInt8} {body : Json} :
    IsStructured bytes body → Concludes attempts (.error (.status code asked bytes))
      (.error { failure := .badStatus code, body := some body, status := some code })
  | refusedBare {code : Nat} {asked : Option Duration} {bytes : List UInt8} :
    (∀ body, ¬IsStructured bytes body) → Concludes attempts (.error (.status code asked bytes))
      (.error { failure := .badStatus code, status := some code })
  | timeout : Concludes attempts (.error .timeout) (.error { failure := .timeout })
  | connection {reason : String} :
    Concludes attempts (.error (.connection reason)) (.error { failure := .transport })
  | body {reason : String} :
    Concludes attempts (.error (.body reason)) (.error { failure := .transport })
  | unwritable {reason : String} :
    Concludes attempts (.error (.unwritable reason)) (.error { failure := .invalidRequest })

namespace Run

/-- The last attempt concludes the call as the table says. -/
theorem concludes_conclude (n : Nat) (ending : Except AttemptError (Nat × List UInt8)) :
    Concludes n ending (conclude n ending) := by
  rcases ending with (reason | reason | - | ⟨code, asked, bytes⟩ | reason) | ⟨status, bytes⟩
  case error.status =>
    simp only [conclude, AttemptError.failure, statusOf?]
    cases h : structured? bytes with
    | none => exact .refusedBare (structured?_eq_none.1 h)
    | some body => exact .refused (structured?_eq_some.1 h)
  case ok =>
    simp only [conclude, readReply]
    cases h : structured? bytes with
    | none => exact .unparsable (structured?_eq_none.1 h)
    | some body => exact .reply (structured?_eq_some.1 h)
  case error.unwritable => exact .unwritable
  case error.connection => exact .connection
  case error.timeout => exact .timeout
  case error.body => exact .body

variable {site : CallSite} {h : Webhook} {scopes : Scopes} {r : Request}

/-- **A call is bounded and faithful.**  Of a request that is prepared, attempts are made up to the
first that settles the call, and four at most.  The call takes exactly the steps of that course: it
sends the same request at each attempt, and between two attempts it waits as long as the policy
says for the first of them, which is never longer than the longest pause.  Unless it is stopped,
it has reported each attempt with its number and its status, and comes to what the last attempt
says. -/
theorem callInFull_faithful (hr : h.prepare scopes = .ok r) (w : World) :
    let policy := RetryPolicy.ofConfig site.config
    let endings := w.network.ending site.config r
    ∃ k result, k ≤ policy.retries ∧ policy.retries ≤ 3 ∧
      (∀ j < k, ¬policy.Settles (endings j)) ∧ (k = policy.retries ∨ policy.Settles (endings k)) ∧
      Concludes (k + 1) (endings k) result ∧
      (callInFull site h scopes).exec w =
        (do play site r (policy.course endings 0 k); return result).exec w ∧
      (∀ time, .pause time ∈ policy.course endings 0 k → time ≤ policy.longest) ∧
      (callInFull site h scopes).Meets w
        (fun comesTo w' => comesTo = result ∧
          w'.events = w.events ++ attemptReports site endings 0 k ∧
          w'.sent = w.sent ++ (List.replicate (k + 1) (w.network.sends site.config r)).flatten)
        (fun stop _ => site.limits.Allow stop) := by
  intro policy endings
  obtain ⟨k, hk⟩ := policy.exists_last policy.retries endings
  have hcall : callInFull site h scopes = attemptsInFull site r 0 policy.retries := by
    unfold callInFull
    rw [hr]
  rw [hcall]
  refine ⟨k, conclude (k + 1) (endings k), hk.1, RetryPolicy.ofConfig_retries_le _,
    fun j hj => RetryPolicy.again_eq_true.1 (hk.2.1 j hj),
    hk.2.2.imp_right RetryPolicy.again_eq_false.1, concludes_conclude _ _, ?steps, ?pauses, ?ends⟩
  case steps =>
    rw [attemptsInFull_course (Nat.zero_add _) hk, Nat.zero_add]
  case pauses =>
    intro time ht
    simp only [RetryPolicy.course, List.mem_append, List.mem_flatMap, List.mem_cons, reduceCtorEq,
      List.not_mem_nil, or_false, false_or, CallStep.pause.injEq] at ht
    obtain ⟨j, -, rfl⟩ := ht
    exact policy.delay_le_longest _ _
  case ends =>
    refine (attemptsInFull_meets (Nat.zero_add _) hk).mono ?_
    rintro comesTo w' ⟨rfl, -, he, hs⟩
    exact ⟨by rw [Nat.zero_add], he, hs⟩

/-- A webhook without parameters. -/
def plainLookup : Webhook := { url := "http://a.example/x" }

/-- A network that is busy once and asks for a second, and then answers with an object. -/
def busyOnce : Network where
  reaches _ := true
  replies := [{ reply := .answer 503 (some "1") [] true },
    { reply := .answer 200 none (Text.utf8 "{}".toList) true }]

/-- A call that meets a busy network waits for the second that was asked for, and is answered at
its second attempt. -/
theorem callInFull_of_busyOnce :
    ∃ r, plainLookup.prepare .empty = .ok r ∧
      (callInFull ⟨{}, {}, "", 0⟩ plainLookup .empty).exec { network := busyOnce } = (do
        play ⟨{}, {}, "", 0⟩ r [.attempt 0, .pause (.ofSeconds 1), .attempt 1]
        return (.ok ⟨200, .obj [], 2⟩ : Except FailedCall CallReply)).exec
          { network := busyOnce } := by
  have hends : ((plainLookup.prepare .empty).toOption.map fun r =>
      (busyOnce.ending {} r 0, busyOnce.ending {} r 1)) =
      some (.error (.status 503 (some (.ofSeconds 1)) []), .ok (200, Text.utf8 "{}".toList)) := by
    decide +kernel
  have hread : structured? (Text.utf8 "{}".toList) = some (.obj []) := by
    have h : (structured? (Text.utf8 "{}".toList)).any (·.same (.obj [])) := by decide +kernel
    obtain ⟨body, hb, hs⟩ := (Option.any_eq_true _ _).1 h
    cases body with
    | obj entries =>
      rw [Json.same, Bool.and_eq_true, beq_iff_eq, List.length_nil, List.length_eq_zero_iff] at hs
      rw [hb, hs.1]
    | _ => simp [Json.same] at hs
  obtain ⟨r, hr, hends⟩ := Option.map_eq_some_iff.1 hends
  obtain ⟨hfirst, hsecond⟩ := Prod.mk.inj hends
  have hr := Except.toOption_eq_some.1 hr
  obtain ⟨k, result, hk, -, -, hlast, hc, hsteps, -⟩ :=
    @callInFull_faithful ⟨{}, {}, "", 0⟩ plainLookup .empty r hr { network := busyOnce }
  have hbusy : ¬(RetryPolicy.ofConfig {}).Settles (busyOnce.ending {} r 0) := by
    rw [hfirst]
    simp [RetryPolicy.Settles, RetryPolicy.ofConfig]
  obtain rfl : k = 1 := by
    have hk : k ≤ 1 := hk
    rcases Nat.le_one_iff_eq_zero_or_eq_one.1 hk with rfl | rfl
    · exact absurd (hlast.resolve_left (by decide)) hbusy
    · rfl
  have hresult : result = .ok ⟨200, .obj [], 2⟩ := by
    rw [show ({ network := busyOnce } : World).network.ending _ r 1 = _ from hsecond] at hc
    cases hc with
    | reply hb =>
      obtain rfl := Option.some.inj (hread.symm.trans (structured?_eq_some.2 hb))
      rfl
    | unparsable hn => exact absurd (structured?_eq_some.1 hread) (hn _)
  refine ⟨r, hr, ?_⟩
  rw [hsteps, hresult, RetryPolicy.course_succ, RetryPolicy.course_zero,
    show ({ network := busyOnce } : World).network.ending _ r 0 = _ from hfirst,
    show (RetryPolicy.ofConfig {}).delay 0 (askedBy (.error (.status 503 (some (.ofSeconds 1)) []))) =
      .ofSeconds 1 by decide]

end Run
end AgentTool
