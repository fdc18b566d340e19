import Rollout.Proofs.Chain.Transcript
import Rollout.Proofs.Deployment.Alike

/-!
# Attempts at a call

A deployment makes a call through a connection in attempts: each is an exchange of its own
under the time for an operation, and after a failure that may pass there is another one as
long as any is left (`Exchange.Attempts`). The record of a whole call is that of its attempts
one after the other, and the last one gives the result (`call_attempts`).
-/

namespace Rollout

/-- What is on record of an exchange that is made again while `left` attempts are left, and the
result; `late` is the failure of an attempt that takes too long. -/
inductive Exchange.Attempts (e : Exchange α) (late : Failure) :
    Nat → List NodeEvent → Fallible α → Prop
  | last {left : Nat} {log : List NodeEvent} {v : Option (Fallible α)} (h : e.Transcript log v)
      (hlast : ∀ f, v.getD (.error late) = .error f → f.retryable = true → left = 0) :
      Attempts e late left log (v.getD (.error late))
  | again {left : Nat} {log rest : List NodeEvent} {v : Option (Fallible α)} {f : Failure}
      {result : Fallible α} (h : e.Transcript log v) (hf : v.getD (.error late) = .error f)
      (hretry : f.retryable = true) (hrest : Attempts e late left rest result) :
      Attempts e late (left + 1) (log ++ rest) result

namespace Deployment

/-- The deployment that makes its calls through a connection to a node, on record. -/
def through (d : Deployment σ) (c : Connection) (n : Node σ) : Deployment (Recorded σ) :=
  d.withClient (c.client n.recorded)

/-- The failure of an attempt that takes too long. -/
def late (d : Deployment σ) (c : Call) : Failure := .timeout c.operation d.policy.operationTimeoutMs

variable (d : Deployment σ) (c : Connection) (n : Node σ) (k : Call)

theorem attempt_transcript (now : Nat) (p : Progress (Recorded σ)) :
    ∃ v t q log, ((d.through c n).attempt k).result now p =
        ⟨some (v.getD (.error (d.late k))), t, q⟩
      ∧ q.world.1 = p.world.1 ++ log ∧ (c.exchange k).Transcript log v := by
  have hmeets : (onWorld ((c.client n.recorded).call k) now p).Meets
      (fun q => (c.exchange k).Adds p.world.1 none q.world)
      (fun r q => (c.exchange k).Adds p.world.1 (some r) q.world) :=
    ((c.exchange k).hold_recorded n now p.world).mapState
      (f := fun w => { p with world := w }) (fun _ h => h) (fun _ _ h => h)
  have hwithin {r : Option (Fallible k.Answer)} {t : Nat} {q : Progress (Recorded σ)}
      (hcut : ((onWorld ((c.client n.recorded).call k) now p).cut
        d.policy.operationTimeoutMs).finish now = ⟨some r, t, q⟩) :
      ((d.through c n).attempt k).result now p =
        ⟨some (r.getD (.error (d.late k))), t, q⟩ := by
    have h : ((onWorld ((d.through c n).client.call k)).within
      (d.through c n).policy.operationTimeoutMs).result now p = ⟨some r, t, q⟩ := hcut
    rw [attempt, Timed.result_bind_of h]
    cases r <;> rfl
  rcases hmeets.finish_cut d.policy.operationTimeoutMs now with
    ⟨r, t, q, hcut, log, hlog, h⟩ | ⟨t, q, hcut, log, hlog, h⟩
  · exact ⟨some r, t, q, log, hwithin hcut, hlog, h⟩
  · exact ⟨none, t, q, log, hwithin hcut, hlog, h⟩

theorem perform_attempts :
    ∀ (left failed now : Nat) (p : Progress (Recorded σ)),
      ∃ r t q log, ((d.through c n).perform k failed left).result now p = ⟨some r, t, q⟩
        ∧ q.world.1 = p.world.1 ++ log ∧ (c.exchange k).Attempts (d.late k) left log r
  | 0, _, now, p => by
      obtain ⟨v, t, q, log, hrun, hlog, h⟩ := d.attempt_transcript c n k now p
      exact ⟨_, t, q, log, hrun, hlog, .last h fun _ _ _ => rfl⟩
  | left + 1, failed, now, p => by
      obtain ⟨v, t, q, log, hrun, hlog, h⟩ := d.attempt_transcript c n k now p
      rw [perform, Timed.result_bind_of hrun]
      cases hv : v.getD (.error (d.late k)) with
      | ok a =>
          refine ⟨.ok a, t, q, log, rfl, hlog, ?_⟩
          rw [← hv]
          exact .last h fun f hf _ => by rw [hv] at hf; cases hf
      | error f =>
          cases hretry : f.retryable with
          | false =>
              refine ⟨.error f, t, q, log, ?_, hlog, ?_⟩
              · simp only [hretry, Bool.false_eq_true, if_false, Timed.result_pure]
              · rw [← hv]
                refine .last h fun f' hf hf' => ?_
                rw [hv] at hf
                obtain rfl := Except.error.inj hf
                rw [hretry] at hf'
                cases hf'
          | true =>
              obtain ⟨r, t', q', log', hrest, hlog', h'⟩ :=
                perform_attempts left (failed + 1)
                  (t + min (d.policy.retry.backoff (failed + 1)) Timed.longest) q
              refine ⟨r, t', q', log ++ log', ?_, by rw [hlog', hlog, List.append_assoc],
                .again h hv hretry h'⟩
              simp only [hretry, if_true]
              exact (Timed.result_bind_of (Timed.result_wait _ _ _)).trans hrest

/-- A call ends with the result of its last attempt, and all attempts are on record. -/
theorem call_attempts (now : Nat) (p : Progress (Recorded σ)) :
    ∃ r t q log, ((d.through c n).call k).result now p = ⟨some r, t, q⟩
      ∧ q.world.1 = p.world.1 ++ log
      ∧ (c.exchange k).Attempts (d.late k) d.policy.retry.maxRetries.toNat log r :=
  d.perform_attempts c n k _ 0 now p

end Deployment

end Rollout
