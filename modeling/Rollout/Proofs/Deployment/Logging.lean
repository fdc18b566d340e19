import Rollout.Proofs.Deployment.Alike

/-!
# The log of the calls

The calls that a deployment makes are observed by a client that keeps a log: it notes each
call and the instant at which it is made, and does otherwise what the client does that it
stands for (`mapState_logging`). What happens with the logging client is what happens without
it, apart from the log (`mapState_runSteps_logging`).

In a rollout the log and the reports only grow, and what is added to the log bears the
instants between two moments (`Grows`).
-/

namespace Rollout

/-- The state of a client behind a log of calls. -/
abbrev Logged (σ : Type) := List (Nat × Call) × σ

namespace Client

/-- Notes the calls that are made to a client. -/
def logging (k : Client σ) : Client (Logged σ) where
  call c := do
    let started ← Timed.now
    Timed.modify fun w => (w.1 ++ [(started, c)], w.2)
    (k.call c).zoom (·.2) fun q w => (w.1, q)

theorem logging_call (k : Client σ) (c : Call) (now : Nat) (w : Logged σ) :
    k.logging.call c now w = (k.call c now w.2).mapState fun q => (w.1 ++ [(now, c)], q) := rfl

theorem mapState_logging (k : Client σ) (c : Call) (now : Nat) (w : Logged σ) :
    (k.logging.call c now w).mapState Prod.snd = k.call c now w.2 := by
  rw [logging_call, Course.mapState_mapState]
  exact Course.mapState_id (k.call c now w.2)

/-- The log goes on from what is in it already. -/
theorem logging_after (k : Client σ) (earlier : List (Nat × Call)) (c : Call) (now : Nat)
    (w : Logged σ) :
    (k.logging.call c now w).mapState (fun w => (earlier ++ w.1, w.2)) =
      k.logging.call c now (earlier ++ w.1, w.2) := by
  rw [logging_call, logging_call, Course.mapState_mapState, List.append_assoc]
  rfl

end Client

/-- A rollout with an empty log. -/
def Progress.withLog (p : Progress σ) : Progress (Logged σ) := { p with world := ([], p.world) }

namespace Deployment

/-- The deployment with a log of its calls. -/
def logging (d : Deployment σ) : Deployment (Logged σ) := d.withClient d.client.logging

/-- The calls that an act makes, with the instants at which they are made. -/
def callsOf (act : Act (Logged σ) α) (now : Nat) (p : Progress σ) : List (Nat × Call) :=
  (act.result now p.withLog).state.world.1

/-- Logging changes nothing but the log. -/
theorem mapState_runSteps_logging (d : Deployment σ) (steps : List Step) (now : Nat)
    (p : Progress σ) :
    (d.logging.runSteps steps now p.withLog).mapState (seenThrough Prod.snd)
      = d.runSteps steps now p :=
  (d.alike_runSteps d.client.logging steps).mapState d.client.mapState_logging now p.withLog

/-- Between two moments reports are left and calls are made. -/
structure Grows (a b : Nat × Progress (Logged σ)) : Prop where
  time : a.1 ≤ b.1
  steps : a.2.steps <+: b.2.steps
  calls : ∃ later, b.2.world.1 = a.2.world.1 ++ later ∧ ∀ e ∈ later, a.1 ≤ e.1 ∧ e.1 ≤ b.1

theorem Grows.of_same {a b : Nat × Progress (Logged σ)} (htime : a.1 ≤ b.1)
    (hsteps : a.2.steps <+: b.2.steps) (hcalls : b.2.world.1 = a.2.world.1) : Grows a b :=
  ⟨htime, hsteps, [], by rw [hcalls, List.append_nil], fun _ he => absurd he List.not_mem_nil⟩

theorem onward_grows : Onward (Grows (σ := σ)) where
  wait p h := .of_same h (List.prefix_refl _) rfl
  trans := by
    rintro a b c ⟨hab, hsab, later, hlab, hab'⟩ ⟨hbc, hsbc, later', hlbc, hbc'⟩
    refine ⟨Nat.le_trans hab hbc, hsab.trans hsbc, later ++ later', ?_, fun e he => ?_⟩
    · rw [hlbc, hlab, List.append_assoc]
    rcases List.mem_append.mp he with he | he
    · exact ⟨(hab' e he).1, Nat.le_trans (hab' e he).2 hbc⟩
    · exact ⟨Nat.le_trans hab (hbc' e he).1, (hbc' e he).2⟩

/-- A call is logged at once, and nothing is logged after that until it is answered. -/
theorem keeps_grows_call (d : Deployment σ) (c : Call) :
    Timed.Keeps Grows (onWorld (d.logging.client.call c)) := by
  intro now p
  have hwhole : onWorld (d.client.logging.call c) now p = (d.client.call c now p.world.2).mapState
      fun q => { p with world := (p.world.1 ++ [(now, c)], q) } :=
    Course.mapState_mapState _ _ _
  have hanswer := (Course.keeps_of_leap (fun t _ _ => Nat.le_refl t)
    (d.client.call c now p.world.2) now p.world.2).mapState
      (f := fun q => { p with world := (p.world.1 ++ [(now, c)], q) }) (Q := Grows)
      fun h => .of_same h (List.prefix_refl _) rfl
  rw [← hwhole] at hanswer
  have hnoted : Grows (now, p)
      (now, { p with world := (p.world.1 ++ [(now, c)], p.world.2) }) := by
    refine ⟨Nat.le_refl now, List.prefix_refl _, [(now, c)], rfl, fun e he => ?_⟩
    obtain rfl := List.mem_singleton.mp he
    exact ⟨Nat.le_refl now, Nat.le_refl now⟩
  exact hanswer.prepend onward_grows hnoted

theorem carries_grows (d : Deployment σ) : d.logging.Carries Grows where
  onward := onward_grows
  registry _ _ _ := .of_same (Nat.le_refl _) (List.prefix_refl _) rfl
  note _ _ _ := .of_same (Nat.le_refl _) (List.prefix_refl _) rfl
  report _ _ _ := .of_same (Nat.le_refl _) (List.prefix_append _ _) rfl
  call := d.keeps_grows_call

end Deployment

end Rollout
