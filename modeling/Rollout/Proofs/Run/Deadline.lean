import Rollout.Proofs.Deployment.Logging
import Rollout.Proofs.Run.Stages

/-!
# The deadline of a scenario

The deadline of a scenario cuts its steps off at a point of time and does nothing else. The
steps without a deadline always end, since each attempt at a call has a time of its own
(`runSteps_ends`). If they end before the deadline, the scenario ends as they do
(`runScenario_of_lt`); if they take longer, it ends exactly at the deadline with what they
have come to by then (`runScenario_of_gt`), and the calls are those that were made before
(`stateAt_runSteps`). `runScenario_deadline` puts these together.

What happens at the very instant of the deadline is left open: it depends on whether it is
waited for.
-/

namespace Rollout

namespace Deployment

/-- Steps without a deadline end. -/
theorem runSteps_ends (d : Deployment σ) (steps : List Step) (now : Nat) (p : Progress σ) :
    ∃ r T q, (d.runSteps steps).result now p = ⟨some r, now + T, q⟩ := by
  obtain ⟨r, t, q, h⟩ := (d.alike_runSteps d.client steps).ends now p
  have hle := Course.le_finish (d.runSteps steps now p) now
  rw [show (d.runSteps steps now p).finish now = ⟨some r, t, q⟩ from h] at hle
  exact ⟨r, t - now, q, by rw [h, Nat.add_sub_cancel' hle]⟩

theorem runScenario_of_lt (d : Deployment σ) (s : Scenario) {now T : Nat} {p q : Progress σ}
    {r : Fallible Unit} (h : (d.runSteps s.steps).result now p = ⟨some r, now + T, q⟩)
    (hT : T < d.deadline s) :
    (d.runScenario s).result now p =
      ⟨some (d.reportOf s (some r) T q.steps), now + T, { q with steps := [] }⟩ := by
  have hcut : ((d.runSteps s.steps).within (d.deadline s)).result now p =
      ⟨some (some r), now + T, q⟩ := Course.finish_cut_of_lt h (Nat.add_lt_add_left hT now)
  rw [d.runScenario_of_within s hcut, Nat.add_sub_cancel_left]

theorem runScenario_of_gt (d : Deployment σ) (s : Scenario) {now : Nat} {p : Progress σ}
    (hT : now + d.deadline s < ((d.runSteps s.steps).result now p).now)
    (hfree : d.deadline s ∉ (d.runSteps s.steps now p).instants) :
    (d.runScenario s).result now p =
      ⟨some (d.reportOf s none (d.deadline s)
          ((d.runSteps s.steps now p).stateAt (d.deadline s)).steps),
        now + d.deadline s,
        { (d.runSteps s.steps now p).stateAt (d.deadline s) with steps := [] }⟩ := by
  have hcut : ((d.runSteps s.steps).within (d.deadline s)).result now p =
      ⟨some none, now + d.deadline s, (d.runSteps s.steps now p).stateAt (d.deadline s)⟩ :=
    Course.finish_cut_of_gt hT hfree
  rw [d.runScenario_of_within s hcut, Nat.add_sub_cancel_left]

/-! ## The calls -/

/-- The log of a growing rollout until a moment is what of its whole log is from before. -/
theorem Grows.log_eq_filter {a b b' c : Nat × Progress (Logged σ)} {t : Nat} (hab : Grows a b)
    (hbc : Grows b' c) (hsame : b'.2 = b.2) (hb : b.1 < t) (hb' : t < b'.1)
    (ha : a.2.world.1 = []) : b.2.world.1 = c.2.world.1.filter fun e => e.1 < t := by
  obtain ⟨early, hearly, hbefore⟩ := hab.calls
  obtain ⟨later, hlater, hafter⟩ := hbc.calls
  rw [ha, List.nil_append] at hearly
  have hin : ∀ e ∈ early, decide (e.1 < t) = true := fun e he =>
    decide_eq_true (Nat.lt_of_le_of_lt (hbefore e he).2 hb)
  have hout : ∀ e ∈ later, ¬decide (e.1 < t) = true := fun e he => by
    simpa using Nat.le_trans (Nat.le_of_lt hb') (hafter e he).1
  rw [hlater, hsame, hearly, List.filter_append, List.filter_eq_self.mpr hin,
    List.filter_eq_nil_iff.mpr hout, List.append_nil]

/-- The steps with a log of the calls take the time that they take without it. -/
theorem result_runSteps_logging (d : Deployment σ) (steps : List Step) (now : Nat)
    (p : Progress σ) :
    (d.runSteps steps).result now p =
      ⟨((d.logging.runSteps steps).result now p.withLog).value,
        ((d.logging.runSteps steps).result now p.withLog).now,
        seenThrough Prod.snd ((d.logging.runSteps steps).result now p.withLog).state⟩ := by
  rw [Timed.result, ← d.mapState_runSteps_logging steps now p, Course.finish_mapState]
  rfl

/-- At a time at which nothing happens, the reports are the first ones, and the calls are those
that were made before. -/
theorem stateAt_runSteps (d : Deployment σ) (steps : List Step) {now elapsed : Nat}
    {p : Progress σ} (hT : now + elapsed < ((d.runSteps steps).result now p).now)
    (hfree : elapsed ∉ (d.runSteps steps now p).instants) :
    ((d.runSteps steps now p).stateAt elapsed).steps <+:
        ((d.runSteps steps).result now p).state.steps
      ∧ ((d.logging.runSteps steps now p.withLog).stateAt elapsed).world.1 =
        (callsOf (d.logging.runSteps steps) now p).filter fun e => e.1 < now + elapsed := by
  have hkeeps := (d.logging.alike_runSteps d.logging.client steps).keeps d.carries_grows now p.withLog
  have hmap := d.mapState_runSteps_logging steps now p
  rw [← hmap, Course.instants_mapState] at hfree
  rw [result_runSteps_logging] at hT ⊢
  obtain ⟨t₁, t₂, h₁, h₂, hbefore, hafter⟩ := hkeeps.around onward_grows hfree hT
  refine ⟨?_, hbefore.log_eq_filter hafter rfl h₁ h₂ rfl⟩
  rw [← hmap, Course.stateAt_mapState]
  exact hafter.steps

/-- The deadline cuts the steps of a scenario off at a point of time and does nothing else.
The steps without it end after some time `T`. If that is less, the report and the calls are
theirs; if it is more, the scenario ends at the deadline in the state of that time, with the first
of the reports and the calls made so far. -/
theorem runScenario_deadline (d : Deployment σ) (s : Scenario) (now : Nat) (p : Progress σ) :
    ∃ r T q, (d.runSteps s.steps).result now p = ⟨some r, now + T, q⟩
      ∧ (T < d.deadline s →
        (d.runScenario s).result now p =
            ⟨some (d.reportOf s (some r) T q.steps), now + T, { q with steps := [] }⟩
          ∧ callsOf (d.logging.runScenario s) now p = callsOf (d.logging.runSteps s.steps) now p)
      ∧ (d.deadline s < T → d.deadline s ∉ (d.runSteps s.steps now p).instants →
        ∃ report m, m = (d.runSteps s.steps now p).stateAt (d.deadline s)
          ∧ (d.runScenario s).result now p =
            ⟨some report, now + d.deadline s, { m with steps := [] }⟩
          ∧ report.name = s.name ∧ report.outcome = .timedOut ∧ report.errorKind = some .timeout
          ∧ report.durationMs = reportedMs (d.deadline s)
          ∧ report.steps = m.steps ∧ m.steps <+: q.steps
          ∧ callsOf (d.logging.runScenario s) now p =
            (callsOf (d.logging.runSteps s.steps) now p).filter
              fun e => e.1 < now + d.deadline s) := by
  obtain ⟨r, T, q', hlogged⟩ := d.logging.runSteps_ends s.steps now p.withLog
  have h := d.result_runSteps_logging s.steps now p
  rw [hlogged] at h
  refine ⟨r, T, _, h, fun hT => ⟨d.runScenario_of_lt s h hT, ?_⟩, fun hT hfree => ?_⟩
  · rw [callsOf, d.logging.runScenario_of_lt s hlogged hT, callsOf, hlogged]
  · have hlong : now + d.deadline s < ((d.runSteps s.steps).result now p).now := by
      rw [h]
      exact Nat.add_lt_add_left hT now
    obtain ⟨hsteps, hcalls⟩ := d.stateAt_runSteps s.steps hlong hfree
    rw [h] at hsteps
    refine ⟨_, _, rfl, d.runScenario_of_gt s hlong hfree, rfl, rfl, rfl, rfl, rfl, hsteps, ?_⟩
    have hlong' : now + d.logging.deadline s
        < ((d.logging.runSteps s.steps).result now p.withLog).now := by
      rw [hlogged]
      exact Nat.add_lt_add_left hT now
    have hfree' : d.logging.deadline s ∉ (d.logging.runSteps s.steps now p.withLog).instants := by
      rw [← Course.instants_mapState (seenThrough Prod.snd), d.mapState_runSteps_logging]
      exact hfree
    rw [← hcalls, callsOf, d.logging.runScenario_of_gt s hlong' hfree']
    rfl

/-- The first balance is answered, the second one never: after the second of the scenario there is
one report, and two calls have been made. -/
theorem runScenario_deadline_second_call_hangs :
    let d : Deployment Script := ⟨Script.client, "osmo1", ⟨60, 1, false, "", .standard⟩, ⟨[], []⟩⟩
    let s := Scenario.make "balances" [.balance none "uosmo", .balance none "uatom"]
    let p := Progress.start
      ⟨[⟨some 100, .ok (.coin ⟨"uosmo", .max⟩)⟩, ⟨none, .error (.connection "")⟩], []⟩
    ∃ report q, (d.runScenario s).result 0 p = ⟨some report, 1000, q⟩
      ∧ report.outcome = .timedOut ∧ report.steps.map (·.status) = [.success]
      ∧ (callsOf (d.logging.runScenario s) 0 p).map (·.1) = [0, 100] := by
  intro d s p
  obtain ⟨r, T, q, hends, -, hgt⟩ := runScenario_deadline d s 0 p
  have htime : ((d.runSteps s.steps).result 0 p).now = 60100 := by decide +kernel
  have hdeadline : d.deadline s = 1000 := by decide +kernel
  rw [hends] at htime
  simp only at htime
  rw [hdeadline] at hgt
  obtain ⟨report, m, hm, hrun, -, hout, -, -, hsteps, -, hcalls⟩ :=
    hgt (by omega) (by decide +kernel)
  refine ⟨report, _, hrun, hout, ?_, ?_⟩
  · rw [hsteps, hm]
    decide +kernel
  · rw [hcalls]
    decide +kernel

end Deployment

end Rollout
