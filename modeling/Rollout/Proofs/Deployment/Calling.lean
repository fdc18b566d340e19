import Rollout.Proofs.Deployment.Alike
import Rollout.Proofs.Deployment.Move

/-!
# The call of a move

A call, with all its attempts, works on the state of the client and on nothing else; and what
a client keeps as long as it has not succeeded is kept over all attempts (`call_meets`). So a
move ends at the instant at which its call ends, and everything that it adds to a rollout is
in place then (`result_move`).
-/

namespace Rollout

/-- What holds of a state after a result, if a failure leaves things as they were. -/
def Unless (I : σ → Prop) (J : α → σ → Prop) : Fallible α → σ → Prop
  | .ok a, s => J a s
  | .error _, s => I s

/-- A rollout differs from another one in the state of the client alone. -/
def Progress.Only (p : Progress σ) (I : σ → Prop) (q : Progress σ) : Prop :=
  ∃ w, q = { p with world := w } ∧ I w

namespace Deployment

variable (d : Deployment σ) {c : Call} {I : σ → Prop} {J : c.Answer → σ → Prop}

theorem attempt_meets (h : ∀ now w, I w → (d.client.call c now w).Meets I (Unless I J)) (now : Nat)
    {p : Progress σ} (hp : I p.world) :
    (d.attempt c now p).Meets (p.Only I) fun r => p.Only (Unless I J r) := by
  have hworld : (onWorld (d.client.call c) now p).Meets (p.Only I) fun r => p.Only (Unless I J r) :=
    (h now p.world hp).mapState (f := fun w => { p with world := w }) (fun w hw => ⟨w, rfl, hw⟩)
      fun _ w hw => ⟨w, rfl, hw⟩
  refine (hworld.cut d.policy.operationTimeoutMs).andThen fun r _ q hq => ?_
  cases r with
  | some r => exact hq
  | none => exact hq

/-- What a client keeps until it succeeds is kept over all attempts. -/
theorem perform_meets (h : ∀ now w, I w → (d.client.call c now w).Meets I (Unless I J)) :
    ∀ (left failed now : Nat) {p : Progress σ}, I p.world →
      (d.perform c failed left now p).Meets (p.Only I) fun r => p.Only (Unless I J r)
  | 0, _, now, _, hp => d.attempt_meets h now hp
  | left + 1, failed, now, p, hp => by
      refine (d.attempt_meets h now hp).andThen fun r t q hq => ?_
      cases r with
      | ok a => exact hq
      | error f =>
          dsimp only
          split
          · obtain ⟨w, rfl, hw⟩ := hq
            exact ⟨⟨w, rfl, hw⟩,
              perform_meets h left (failed + 1) _ (p := { p with world := w }) hw⟩
          · exact hq

theorem call_meets (h : ∀ now w, I w → (d.client.call c now w).Meets I (Unless I J)) (now : Nat)
    {p : Progress σ} (hp : I p.world) :
    (d.call c now p).Meets (p.Only I) fun r => p.Only (Unless I J r) :=
  d.perform_meets h _ 0 now hp

variable (c)

/-- All through a call nothing changes but the state of the client. -/
theorem call_only (now : Nat) (p : Progress σ) :
    (d.call c now p).Meets (p.Only fun _ => True) fun _ => p.Only fun _ => True := by
  have hany : ∀ now w, True →
      (d.client.call c now w).Meets (fun _ => True) (Unless (fun _ => True) fun _ _ => True) := by
    intro now w _
    have hsame := Course.meets_mapState (f := id) (P := fun _ : σ => True)
      (Q := Unless (fun _ => True) fun (_ : c.Answer) _ => True) (fun _ => trivial)
      (fun r _ => by cases r <;> trivial) (d.client.call c now w)
    rwa [show (id : σ → σ) = fun s => s from rfl, Course.mapState_id] at hsame
  refine (d.call_meets hany now (p := p) trivial).weaken (fun _ h => h) ?_
  rintro r q ⟨w, rfl, -⟩
  exact ⟨w, rfl, trivial⟩

/-- A call ends, and changes the state of the client alone. -/
theorem result_call (now : Nat) (p : Progress σ) :
    ∃ r t w, (d.call c).result now p = ⟨some r, t, { p with world := w }⟩ := by
  obtain ⟨r, t, q, hcall⟩ := (d.alike_call d.client c).ends now p
  obtain ⟨w, rfl, -⟩ := (d.call_only c now p).finish hcall
  exact ⟨r, t, w, hcall⟩

variable {c}

/-- A move ends at the instant at which its call ends, with all that it adds. -/
theorem result_move {role : Option String} {found : c.Answer → List Finding}
    {notes : c.Answer → List String} {value : c.Answer → Fallible α} {now t : Nat}
    {p q : Progress σ} {r : Fallible c.Answer} (h : (d.call c).result now p = ⟨some r, t, q⟩) :
    ((Move.calls c role found notes value).act d).result now p =
      ⟨some (r >>= value), t, q.adds (gained found r)
        [StepReport.ofResult c.operation role (reportedMs (t - now)) r] (gained notes r)⟩ := by
  refine (Course.finish_andThen _ _ now).trans ?_
  rw [show (d.call c now p).finish now = ⟨some r, t, q⟩ from h]
  rfl

end Deployment

/-! ## The move of a job -/

/-- What a job lets a rollout know before its move. -/
def Job.announced : Job α → List Finding
  | step s => s.announced
  | _ => []

/-- A rollout that has taken in what a job announces. -/
def Job.opened (j : Job α) (p : Progress σ) : Progress σ :=
  { p with registry := p.registry.learn j.announced }

/-- What a job does first is to take in what it announces, whether or not it waits for a file. -/
theorem Job.opening_meets (j : Job α) (now : Nat) (p : Progress σ) :
    (j.opening now p).Meets (· = j.opened p) fun _ q => q = j.opened p := by
  cases j with
  | step s =>
      cases s with
      | upload role artifact => exact ⟨rfl, rfl⟩
      | _ => exact rfl
  | uploadArtifact role path => exact ⟨rfl, rfl⟩
  | _ => exact rfl

/-- A job takes no time before its move. -/
theorem Deployment.result_job_move (d : Deployment σ) (j : Job α) (now : Nat) (p : Progress σ) :
    (j.act d).result now p = ((j.move d (j.opened p).registry).act d).result now (j.opened p) := by
  have hopening : (j.opening now p).finish now = ⟨some (), now, j.opened p⟩ := by
    cases j with
    | step s => cases s <;> rfl
    | _ => rfl
  rw [Timed.result, d.job_eq, Course.finish_andThen, hopening]
  rfl

end Rollout
