import Mathlib.Algebra.BigOperators.Group.List.Basic
import Mathlib.Algebra.GroupWithZero.Nat
import Rollout.Proofs.Deployment.Calling
import Rollout.Proofs.Deployment.Logging

/-!
# Attempts at a call and the waits between them

A call is made again after a failure that may pass. `trials` lists the attempts that would follow
each other if every one of them failed so: each begins when the wait after the one before it is
over. Each gives the client the time for an operation (`Awaited`). The attempts that are made are
the first of them, up to the first one that does not fail so or to the last one that the policy
allows; `retries` is how many come after the first.

The loop is followed in `result_perform`, by induction on the attempts that are left. From it come
the result, the time and the log of a call, and the one report of the operation that makes it:
`call_retries`. No wait is longer than thirty years, so a wait that the policy makes longer than
that is cut short (`call_retries_wait_capped`).
-/

namespace Rollout

/-- One attempt at a call: the moments of the client at which it began and ended, and the result. -/
structure Trial (σ α : Type) where
  started : Nat × σ
  result : Fallible α
  ended : Nat × σ

namespace Trial

/-- The attempt ended with a failure that may pass. -/
def fades (a : Trial σ α) : Bool :=
  match a.result with
  | .ok _ => false
  | .error f => f.retryable

/-- A rollout whose last attempt is over. -/
def outcome (a : Trial σ α) (p : Progress σ) : Timed.Result (Progress σ) (Fallible α) :=
  ⟨some a.result, a.ended.1, { p with world := a.ended.2 }⟩

theorem outcome_of {a : Trial σ α} {r : Fallible α} (h : a.result = r) (p : Progress σ) :
    a.outcome p = ⟨some r, a.ended.1, { p with world := a.ended.2 }⟩ := by rw [outcome, h]

end Trial

namespace Deployment

/-- The wait when `failed` attempts have failed. -/
def respite (d : Deployment σ) (failed : Nat) : Nat :=
  min (d.policy.retry.backoff failed) Timed.longest

/-- The attempt at a call that begins at a moment of the client. -/
def trial (d : Deployment σ) (c : Call) (m : Nat × σ) : Trial σ c.Answer :=
  let r := ((d.client.call c m.1 m.2).cut d.policy.operationTimeoutMs).finish m.1
  ⟨m, r.value.join.getD (.error (.timeout c.operation d.policy.operationTimeoutMs)), r.now, r.state⟩

/-- The attempts at a call, each after the wait that follows the one before it. -/
def trials (d : Deployment σ) (c : Call) (m : Nat × σ) : Nat → Trial σ c.Answer
  | 0 => d.trial c m
  | k + 1 =>
    d.trial c ((d.trials c m k).ended.1 + d.respite (k + 1), (d.trials c m k).ended.2)

/-- How many attempts in a row, from one on, end with a failure that may pass, if at most `left` of
them are looked at. -/
def fading (d : Deployment σ) (c : Call) (m : Nat × σ) (k left : Nat) : Nat :=
  ((List.range' k left).takeWhile fun i => (d.trials c m i).fades).length

/-- How many attempts follow the first one: as many as begin the list with failures that may pass,
but no more than the policy allows. -/
def retries (d : Deployment σ) (c : Call) (m : Nat × σ) : Nat :=
  d.fading c m 0 d.policy.retry.maxRetries.toNat

/-- How an attempt goes: the client answers within the time for an operation, and that is the
result; or it does not, and the attempt ends with that time. -/
inductive Awaited (d : Deployment σ) (c : Call) (a : Trial σ c.Answer) : Prop
  | answered
      (hresult : (d.client.call c).result a.started.1 a.started.2 =
        ⟨some a.result, a.ended.1, a.ended.2⟩)
      (htime : a.ended.1 ≤ a.started.1 + d.policy.operationTimeoutMs)
  | late (hresult : a.result = .error (.timeout c.operation d.policy.operationTimeoutMs))
      (htime : a.ended.1 = a.started.1 + d.policy.operationTimeoutMs)
      (hlate : ∀ r t w, (d.client.call c).result a.started.1 a.started.2 = ⟨some r, t, w⟩ →
        a.ended.1 ≤ t)

/-- The time until a client answers, but at most the time for an operation. -/
def awaited (d : Deployment σ) (c : Call) (m : Nat × σ) : Nat :=
  match (d.client.call c).result m.1 m.2 with
  | ⟨some _, t, _⟩ => min (t - m.1) d.policy.operationTimeoutMs
  | ⟨none, _, _⟩ => d.policy.operationTimeoutMs

variable (d : Deployment σ) (c : Call)

/-! ## One attempt -/

theorem trial_awaited (m : Nat × σ) : d.Awaited c (d.trial c m) := by
  rcases Course.finish_cut (d.client.call c m.1 m.2) d.policy.operationTimeoutMs m.1 with
    ⟨r, t, w, hfinish, ht, hcut⟩ | ⟨w, hcut⟩
  · have htrial : d.trial c m = ⟨m, r, t, w⟩ := by
      rw [trial, hcut]
      rfl
    rw [htrial]
    exact .answered hfinish ht
  · have htrial : d.trial c m =
        ⟨m, .error (.timeout c.operation d.policy.operationTimeoutMs),
          m.1 + d.policy.operationTimeoutMs, w⟩ := by
      rw [trial, hcut]
      rfl
    rw [htrial]
    refine .late rfl rfl fun r t w' hfinish => Nat.le_of_not_lt fun ht => ?_
    rw [Course.finish_cut_of_lt hfinish ht] at hcut
    cases hcut

theorem Awaited.time {d : Deployment σ} {c : Call} {a : Trial σ c.Answer} (h : d.Awaited c a) :
    a.ended.1 = a.started.1 + d.awaited c a.started := by
  cases h with
  | answered hresult htime =>
      have hle : a.started.1 ≤ a.ended.1 := Course.le_of_finish hresult
      rw [awaited, hresult]
      dsimp only
      omega
  | late _ htime hlate =>
      rw [awaited]
      split
      · next r t w hresult =>
        have hle := hlate r t w hresult
        omega
      · exact htime

theorem result_attempt (now : Nat) (p : Progress σ) :
    (d.attempt c).result now p = (d.trial c (now, p.world)).outcome p := by
  have hwithin := Course.finish_mapState (fun w => { p with world := w })
    ((d.client.call c now p.world).cut d.policy.operationTimeoutMs) now
  rw [Course.mapState_cut] at hwithin
  change ((onWorld (d.client.call c)).within d.policy.operationTimeoutMs).result now p = _ at hwithin
  rw [Trial.outcome, trial]
  rcases Course.finish_cut (d.client.call c now p.world) d.policy.operationTimeoutMs now with
    ⟨r, t, w, -, -, hcut⟩ | ⟨w, hcut⟩
  · rw [hcut] at hwithin ⊢
    rw [attempt, Timed.result_bind_of hwithin]
    rfl
  · rw [hcut] at hwithin ⊢
    rw [attempt, Timed.result_bind_of hwithin]
    rfl

/-! ## The loop -/

theorem started_succ (m : Nat × σ) (k : Nat) :
    (d.trials c m (k + 1)).started =
      ((d.trials c m k).ended.1 + d.respite (k + 1), (d.trials c m k).ended.2) := rfl

theorem trials_awaited (m : Nat × σ) (k : Nat) : d.Awaited c (d.trials c m k) := by
  cases k with
  | zero => exact d.trial_awaited c m
  | succ k => exact d.trial_awaited c _

theorem result_attempt_trials (m : Nat × σ) (p : Progress σ) (k : Nat) :
    (d.attempt c).result (d.trials c m k).started.1
        { p with world := (d.trials c m k).started.2 } = (d.trials c m k).outcome p := by
  have htrial : d.trial c (d.trials c m k).started = d.trials c m k := by cases k <;> rfl
  have hattempt := d.result_attempt c (d.trials c m k).started.1
    { p with world := (d.trials c m k).started.2 }
  rwa [htrial] at hattempt

theorem fading_succ {m : Nat × σ} {k : Nat} (h : (d.trials c m k).fades = true) (left : Nat) :
    d.fading c m k (left + 1) = d.fading c m (k + 1) left + 1 := by
  simp only [fading, List.range'_succ, List.takeWhile_cons, h, if_true, List.length_cons]

theorem fading_eq_zero {m : Nat × σ} {k : Nat} (h : (d.trials c m k).fades = false) :
    ∀ left, d.fading c m k left = 0
  | 0 => rfl
  | left + 1 => by
      simp only [fading, List.range'_succ, List.takeWhile_cons, h, Bool.false_eq_true, if_false,
        List.length_nil]

theorem result_perform (m : Nat × σ) (p : Progress σ) :
    ∀ left k, (d.perform c k left).result (d.trials c m k).started.1
        { p with world := (d.trials c m k).started.2 } =
      (d.trials c m (k + d.fading c m k left)).outcome p
  -- the induction is on the attempts that are left, and `k` have been made
  | 0, k => d.result_attempt_trials c m p k
  | left + 1, k => by
      rw [perform, Timed.result_bind_of (d.result_attempt_trials c m p k)]
      cases hresult : (d.trials c m k).result with
      | ok a =>
          have hstop : (d.trials c m k).fades = false := by rw [Trial.fades, hresult]
          rw [d.fading_eq_zero c hstop]
          exact (Trial.outcome_of hresult p).symm
      | error f =>
          have hfades : (d.trials c m k).fades = f.retryable := by rw [Trial.fades, hresult]
          cases hretry : f.retryable with
          | false =>
              rw [d.fading_eq_zero c (hfades.trans hretry)]
              simp only [hretry, Bool.false_eq_true, if_false]
              exact (Trial.outcome_of hresult p).symm
          | true =>
              rw [d.fading_succ c (hfades.trans hretry), ← Nat.add_assoc, Nat.add_right_comm]
              simp only [hretry, if_true]
              exact (Timed.result_bind_of (Timed.result_wait _ _ _)).trans
                (result_perform m p left (k + 1))

theorem result_call_trials (now : Nat) (p : Progress σ) :
    (d.call c).result now p =
      (d.trials c (now, p.world) (d.retries c (now, p.world))).outcome p := by
  have h := d.result_perform c (now, p.world) p d.policy.retry.maxRetries.toNat 0
  rwa [Nat.zero_add] at h

/-! ## How many attempts -/

theorem fading_le (m : Nat × σ) (k left : Nat) : d.fading c m k left ≤ left :=
  Nat.le_trans (List.takeWhile_prefix _).length_le (Nat.le_of_eq List.length_range')

theorem fades_of_lt_fading (m : Nat × σ) :
    ∀ left k i, i < d.fading c m k left → (d.trials c m (k + i)).fades = true
  | 0, _, _, h => absurd h (Nat.not_lt_zero _)
  | left + 1, k, i, h => by
      cases hk : (d.trials c m k).fades with
      | false =>
          rw [d.fading_eq_zero c hk] at h
          exact absurd h (Nat.not_lt_zero i)
      | true =>
          rw [d.fading_succ c hk] at h
          cases i with
          | zero => exact hk
          | succ i =>
              rw [Nat.add_comm i 1, ← Nat.add_assoc]
              exact fades_of_lt_fading m left (k + 1) i (Nat.lt_of_succ_lt_succ h)

theorem fading_of_fades (m : Nat × σ) :
    ∀ left k, (d.trials c m (k + d.fading c m k left)).fades = true → d.fading c m k left = left
  | 0, _, _ => rfl
  | left + 1, k, h => by
      cases hk : (d.trials c m k).fades with
      | false =>
          rw [d.fading_eq_zero c hk, Nat.add_zero, hk] at h
          cases h
      | true =>
          rw [d.fading_succ c hk, ← Nat.add_assoc, Nat.add_right_comm] at h
          rw [d.fading_succ c hk, fading_of_fades m left (k + 1) h]

/-! ## Time -/

theorem ended_trials (m : Nat × σ) : ∀ k, (d.trials c m k).ended.1 =
    m.1 + ((List.range (k + 1)).map fun i => d.awaited c (d.trials c m i).started).sum
      + ((List.range k).map fun i => d.respite (i + 1)).sum
  | 0 => (d.trials_awaited c m 0).time
  | k + 1 => by
      have hsofar := ended_trials m k
      have htime : (d.trials c m (k + 1)).ended.1 =
          (d.trials c m k).ended.1 + d.respite (k + 1)
            + d.awaited c (d.trials c m (k + 1)).started := (d.trials_awaited c m (k + 1)).time
      rw [List.sum_range_succ _ (k + 1), List.sum_range_succ (fun i => d.respite (i + 1)) k]
      omega

/-! ## The log -/

theorem trial_logging (now : Nat) (w : Logged σ) :
    d.logging.trial c (now, w) =
      ⟨(now, w), (d.trial c (now, w.2)).result, (d.trial c (now, w.2)).ended.1,
        (w.1 ++ [(now, c)], (d.trial c (now, w.2)).ended.2)⟩ := by
  have hlogged : d.logging.client.call c now w = _ := d.client.logging_call c now w
  have hcut := Course.finish_mapState (fun q => (w.1 ++ [(now, c)], q))
    ((d.client.call c now w.2).cut d.policy.operationTimeoutMs) now
  rw [Course.mapState_cut, ← hlogged] at hcut
  rw [trial, show d.logging.policy = d.policy from rfl, hcut]
  rfl

/-- The calls of the attempts before one. -/
def callsBefore (d : Deployment σ) (c : Call) (m : Nat × σ) (k : Nat) : List (Nat × Call) :=
  (List.range k).map fun i => ((d.trials c m i).started.1, c)

theorem callsBefore_succ (m : Nat × σ) (k : Nat) :
    d.callsBefore c m (k + 1) = d.callsBefore c m k ++ [((d.trials c m k).started.1, c)] := by
  rw [callsBefore, callsBefore, List.range_succ, List.map_append, List.map_singleton]

theorem trials_logging (now : Nat) (w : σ) : ∀ k,
    (d.logging.trials c (now, [], w) k).result = (d.trials c (now, w) k).result
      ∧ (d.logging.trials c (now, [], w) k).ended =
        ((d.trials c (now, w) k).ended.1, d.callsBefore c (now, w) (k + 1),
          (d.trials c (now, w) k).ended.2)
  | 0 => by
      rw [trials, trial_logging]
      exact ⟨rfl, rfl⟩
  | k + 1 => by
      obtain ⟨-, hended⟩ := trials_logging now w k
      rw [trials, hended, trial_logging, callsBefore_succ d c (now, w) (k + 1)]
      exact ⟨rfl, rfl⟩

theorem fading_logging (now : Nat) (w : σ) (k left : Nat) :
    d.logging.fading c (now, [], w) k left = d.fading c (now, w) k left := by
  have hfades (i : Nat) :
      (d.logging.trials c (now, [], w) i).fades = (d.trials c (now, w) i).fades := by
    rw [Trial.fades, (d.trials_logging c now w i).1]
    rfl
  simp only [fading, hfades]

theorem callsOf_call (now : Nat) (p : Progress σ) :
    callsOf (d.logging.call c) now p =
      d.callsBefore c (now, p.world) (d.retries c (now, p.world) + 1) := by
  have hretries : d.logging.retries c (now, [], p.world) = d.retries c (now, p.world) :=
    d.fading_logging c now p.world 0 _
  rw [callsOf, d.logging.result_call_trials c now p.withLog]
  change (d.logging.trials c (now, [], p.world) (d.logging.retries c (now, [], p.world))).ended.2.1 =
    _
  rw [hretries, (d.trials_logging c now p.world _).2]

/-! ## The account of a call -/

/-- How a call goes that is started in a rollout: it is attempted once and then `n` times again. -/
structure CallAccount (d : Deployment σ) (c : Call) (now : Nat) (p : Progress σ) (n : Nat)
    (tries : Nat → Trial σ c.Answer) : Prop where
  /-- The result is that of the last attempt; only the state of the client has changed. -/
  result : (d.call c).result now p = (tries n).outcome p
  /-- The same call is made for each attempt. -/
  calls : callsOf (d.logging.call c) now p =
    (List.range (n + 1)).map fun k => ((tries k).started.1, c)
  /-- Each attempt begins after the wait that follows the one before it. -/
  first : (tries 0).started = (now, p.world)
  next : ∀ k, (tries (k + 1)).started = ((tries k).ended.1 + d.respite (k + 1), (tries k).ended.2)
  /-- It has the answer of the client or the timeout, whichever comes first. -/
  awaited : ∀ k, d.Awaited c (tries k)
  /-- There is another attempt only after a failure that may pass, and after such a failure there
  is one unless all that the policy allows have been made. -/
  limit : n ≤ d.policy.retry.maxRetries.toNat
  again : ∀ k < n, (tries k).fades = true
  last : (tries n).fades = true → n = d.policy.retry.maxRetries.toNat
  /-- The time is that of the attempts and of the waits between them. -/
  time : (tries n).ended.1 =
    now + ((List.range (n + 1)).map fun k => d.awaited c (tries k).started).sum
      + ((List.range n).map fun k => d.respite (k + 1)).sum
  /-- Every operation that makes the call leaves one report, on the result of the last attempt. -/
  report : ∀ {α : Type} (j : Job α) (role : Option String) (found : c.Answer → List Finding)
      (notes : c.Answer → List String) (value : c.Answer → Fallible α),
    j.move d (j.opened p).registry = .calls c role found notes value →
      ∃ q, (j.act d).result now p = ⟨some ((tries n).result >>= value), (tries n).ended.1, q⟩
        ∧ q.steps = p.steps ++ [StepReport.ofResult c.operation role
          (reportedMs ((tries n).ended.1 - now)) (tries n).result]

/-- A call ends, from any state and whatever the client does: it is attempted until an attempt does
not fail in a way that may pass or the policy allows no more, with the waits of the policy in
between. -/
theorem call_retries (now : Nat) (p : Progress σ) :
    CallAccount d c now p (d.retries c (now, p.world)) (d.trials c (now, p.world)) where
  result := d.result_call_trials c now p
  calls := d.callsOf_call c now p
  first := rfl
  next := d.started_succ c (now, p.world)
  awaited := d.trials_awaited c (now, p.world)
  limit := d.fading_le c (now, p.world) 0 _
  again k hk := by
    have hfades := d.fades_of_lt_fading c (now, p.world) _ 0 k hk
    rwa [Nat.zero_add] at hfades
  last h := by
    refine d.fading_of_fades c (now, p.world) _ 0 ?_
    rw [Nat.zero_add]
    exact h
  time := d.ended_trials c (now, p.world) _
  report j role found notes value hmove := by
    have hcall := d.result_call_trials c now (j.opened p)
    have hjob := d.result_job_move j now p
    rw [hmove, d.result_move hcall] at hjob
    exact ⟨_, hjob, rfl⟩

/-- The first answer is a lost connection, the second one never comes, the third one is in time:
the call is attempted at 0, 150 and 61350 milliseconds, and its operation leaves one report. -/
theorem call_retries_third_in_time :
    let d : Deployment Script :=
      ⟨Script.client, "osmo1", { RunPolicy.standard with retry := ⟨5, 100, 12.0⟩ }, ⟨[], []⟩⟩
    let p := Progress.start
      ⟨[⟨some 50, .error (.connection "reset")⟩, ⟨none, .error (.connection "")⟩,
        ⟨some 10, .ok (.coin ⟨"uosmo", .max⟩)⟩], []⟩
    ∃ q, (d.balance none "uosmo").result 0 p = ⟨some (.ok ⟨"uosmo", .max⟩), 61360, q⟩
      ∧ q.steps = [⟨.balance, none, .success, 61360, none, none⟩]
      ∧ (callsOf (d.logging.call (.balance "osmo1" "uosmo")) 0 p).map (·.1) = [0, 150, 61350] := by
  intro d p
  have haccount := d.call_retries (.balance "osmo1" "uosmo") 0 p
  have hretries : d.retries (.balance "osmo1" "uosmo") (0, p.world) = 2 := by decide +kernel
  have htime : (d.trials (.balance "osmo1" "uosmo") (0, p.world) 2).ended.1 = 61360 := by
    decide +kernel
  have hresult : (d.trials (.balance "osmo1" "uosmo") (0, p.world) 2).result =
      .ok ⟨"uosmo", .max⟩ := by decide +kernel
  rw [hretries] at haccount
  obtain ⟨q, hrun, hsteps⟩ :=
    haccount.report (.balance none "uosmo") none (fun _ => []) (fun _ => []) .ok rfl
  rw [hresult, htime] at hrun hsteps
  refine ⟨q, hrun, hsteps, ?_⟩
  rw [haccount.calls]
  decide +kernel

/-- No wait is longer than thirty years: after one that the policy makes a thousand billion
milliseconds long, a call ends earlier than its attempts and the waits of the policy take. -/
theorem call_retries_wait_capped :
    let d : Deployment Script :=
      ⟨Script.client, "osmo1", { RunPolicy.standard with retry := ⟨1, 1000000000000, 2.0⟩ },
        ⟨[], []⟩⟩
    let c : Call := .balance "osmo1" "uosmo"
    let p := Progress.start
      ⟨[⟨some 0, .error (.connection "reset")⟩, ⟨some 0, .ok (.coin ⟨"uosmo", .max⟩)⟩], []⟩
    d.retries c (0, p.world) = 1
      ∧ ((d.call c).result 0 p).now = 946080000000
      ∧ ((d.call c).result 0 p).now ≠
        0 + ((List.range 2).map fun k => d.awaited c (d.trials c (0, p.world) k).started).sum
          + ((List.range 1).map fun k => d.policy.retry.backoff (k + 1)).sum := by
  intro d c p
  exact ⟨by decide +kernel, by decide +kernel, by decide +kernel⟩

end Deployment

end Rollout
