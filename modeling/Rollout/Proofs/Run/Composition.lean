import Rollout.Proofs.Deployment.Transcription
import Rollout.Proofs.Deployment.Logging
import Rollout.Proofs.Run.Accounts

/-!
# Runs one after the other

A run hands on to what comes after it no more than the registry and the state of the client: its
reports are taken at the end of each scenario, and what the loop over the scenarios remembers,
whether the run is halted, can be read off the reports so far (`haltedAfter`). So scenarios can be
divided at any place into those of one run and those of the next one (`runScenarios_append`), as
long as the first run does not halt; for then the second one would not know of it.

`run_append` says this of plans: their scenarios in one run give the reports, the calls and the
registry of two runs.
-/

namespace Rollout

/-- A plan with the scenarios of another one after its own. -/
def Plan.followedBy (a b : Plan) : Plan := ⟨a.contracts, a.scenarios ++ b.scenarios⟩

/-- A rollout after calls that are in the log. -/
def Progress.logged (p : Progress σ) (calls : List (Nat × Call)) : Progress (Logged σ) :=
  { p with world := (calls, p.world) }

namespace Deployment

variable (d : Deployment σ)

/-! ## The loop over the scenarios -/

/-- Whether a run is halted after scenarios with the given reports. -/
def haltedAfter (halted : Bool) (reports : List ScenarioReport) : Bool :=
  halted || (!d.policy.continueOnFailure && reports.any ScenarioReport.unsuccessful)

theorem haltedAfter_nil (halted : Bool) : d.haltedAfter halted [] = halted := by
  simp only [haltedAfter, List.any_nil, Bool.and_false, Bool.or_false]

theorem haltedAfter_cons (halted : Bool) (r : ScenarioReport) (reports : List ScenarioReport) :
    d.haltedAfter halted (r :: reports) = d.haltedAfter (d.haltedAfter halted [r]) reports := by
  simp only [haltedAfter, List.any_cons, List.any_nil, Bool.or_false, Bool.and_or_distrib_left,
    Bool.or_assoc]

theorem haltedAfter_skipped (halted : Bool) (name reason : String) :
    d.haltedAfter halted [.skipped name reason] = halted :=
  d.haltedAfter_nil halted

theorem haltedAfter_ran {r : ScenarioReport} (hskip : r.outcome ≠ .skipped) :
    d.haltedAfter false [r] = (r.outcome ≠ .success && !d.policy.continueOnFailure) := by
  simp only [haltedAfter, ScenarioReport.unsuccessful, List.any_cons, List.any_nil, Bool.or_false,
    Bool.false_or, Bool.and_comm (!d.policy.continueOnFailure)]
  cases h : r.outcome with
  | skipped => exact absurd h hskip
  | _ => rfl

/-- One scenario of a run that is halted or not. -/
def nextScenario (halted : Bool) (s : Scenario) : Act σ ScenarioReport :=
  if !s.enabled then pure (.skipped s.name "disabled")
  else if halted then pure (.skipped s.name "run halted after an earlier failure")
  else d.runScenario s

theorem nextScenario_ends (halted : Bool) (s : Scenario) (m : Moment σ) :
    ∃ (report : ScenarioReport) (mid : Moment σ),
      (d.nextScenario halted s).result m.1 m.2 = ⟨some report, mid.1, mid.2⟩ := by
  rw [nextScenario]
  split
  · exact ⟨_, m, rfl⟩
  · split
    · exact ⟨_, m, rfl⟩
    · obtain ⟨report, t, q, hrun, -⟩ := d.runScenario_ends s m.1 m.2
      exact ⟨report, (t, q), hrun⟩

/-- A run takes one scenario, and then the others, halted or not by the report of the first. -/
theorem result_runScenarios_cons {halted : Bool} {s : Scenario} {m mid : Moment σ}
    {report : ScenarioReport}
    (h : (d.nextScenario halted s).result m.1 m.2 = ⟨some report, mid.1, mid.2⟩)
    (rest : List Scenario) :
    (d.runScenarios halted (s :: rest)).result m.1 m.2 =
      (d.runScenarios (d.haltedAfter halted [report]) rest >>= fun reports =>
        pure (report :: reports)).result mid.1 mid.2 := by
  have passed {reason : String}
      (h : (pure (.skipped s.name reason) : Act σ ScenarioReport).result m.1 m.2 =
        ⟨some report, mid.1, mid.2⟩) :
      report = .skipped s.name reason ∧ mid = m := by
    obtain ⟨hreport, htime, hstate⟩ := Timed.Result.mk.inj h
    exact ⟨(Option.some.inj hreport).symm, (Prod.ext htime hstate).symm⟩
  rw [runScenarios]
  rw [nextScenario] at h
  split at h
  · next hoff =>
    obtain ⟨rfl, rfl⟩ := passed h
    rw [if_pos hoff, haltedAfter_skipped]
  · next hon =>
    rw [if_neg hon]
    split at h
    · next hhalted =>
      obtain ⟨rfl, rfl⟩ := passed h
      rw [if_pos hhalted, haltedAfter_skipped]
    · next hgoes =>
      -- a scenario that was run is not reported as skipped, so the flag can be read off its report
      obtain ⟨report', t, q, hrun, -, hskip, -⟩ := d.runScenario_ends s m.1 m.2
      obtain ⟨hreport, -, -⟩ := Timed.Result.mk.inj (h.symm.trans hrun)
      obtain rfl := Option.some.inj hreport
      obtain rfl := Bool.eq_false_iff.mpr hgoes
      rw [if_neg hgoes, Timed.result_bind_of h, d.haltedAfter_ran hskip]

/-- Scenarios can be divided at any place: what comes after the first ones depends on the moment
that they have come to and on their reports. -/
theorem runScenarios_append :
    ∀ (first : List Scenario) (halted : Bool) (m : Moment σ),
      ∃ (reports : List ScenarioReport) (mid : Moment σ),
        (d.runScenarios halted first).result m.1 m.2 = ⟨some reports, mid.1, mid.2⟩
          ∧ ∀ (later : List Scenario) (more : List ScenarioReport) (stop : Moment σ),
            (d.runScenarios (d.haltedAfter halted reports) later).result mid.1 mid.2 =
                ⟨some more, stop.1, stop.2⟩ →
              (d.runScenarios halted (first ++ later)).result m.1 m.2 =
                ⟨some (reports ++ more), stop.1, stop.2⟩
  | [], halted, m => by
      refine ⟨[], m, rfl, fun later more stop h => ?_⟩
      rwa [haltedAfter_nil] at h
  | s :: first, halted, m => by
      obtain ⟨report, next, hnext⟩ := d.nextScenario_ends halted s m
      obtain ⟨reports, mid, hfirst, hlater⟩ :=
        runScenarios_append first (d.haltedAfter halted [report]) next
      refine ⟨report :: reports, mid, ?_, fun later more stop h => ?_⟩
      · rw [d.result_runScenarios_cons hnext, Timed.result_bind_of hfirst]
        rfl
      · rw [haltedAfter_cons] at h
        rw [List.cons_append, d.result_runScenarios_cons hnext,
          Timed.result_bind_of (hlater later more stop h)]
        rfl

/-! ## Runs of plans -/

/-- A run that is a success, or that goes on after a failure, is not halted at its end. -/
theorem haltedAfter_run {report : RunReport} (hsum : report.summary = .ofReports report.scenarios)
    (hlen : report.scenarios.length < UInt64.size)
    (h : d.policy.continueOnFailure = true ∨ report.isSuccess = true) :
    d.haltedAfter false report.scenarios = false := by
  rw [haltedAfter, Bool.false_or, Bool.and_eq_false_iff]
  rcases h with hgo | hsuccess
  · exact .inl (by rw [hgo]; rfl)
  · exact .inr (List.any_eq_false.mpr fun s hs => by
      rw [(isSuccess_iff hsum hlen).mp hsuccess s hs]
      exact Bool.false_ne_true)

theorem adopted_of_empty {plan : Plan} (h : plan.contracts = .empty) (m : Moment σ) :
    adopted plan m.1 m.2 = m := by
  rw [adopted, h]
  rfl

/-- If a run is not halted at its end, the run that goes on with another plan ends where a run of
that plan ends which comes after it. -/
theorem result_run_followedBy (stamp : Nat → String) {a b : Plan} (hb : b.contracts = .empty)
    {now : Nat} {p : Progress σ} {ra : RunReport} {mid : Moment σ}
    (ha : (d.run stamp a).result now p = ⟨some ra, mid.1, mid.2⟩)
    (hgoes : d.haltedAfter false ra.scenarios = false) :
    ∃ (rb rab : RunReport) (stop : Moment σ),
      (d.run stamp b).result mid.1 mid.2 = ⟨some rb, stop.1, stop.2⟩
        ∧ (d.run stamp (a.followedBy b)).result now p = ⟨some rab, stop.1, stop.2⟩
        ∧ rab.scenarios = ra.scenarios ++ rb.scenarios ∧ rab.registry = rb.registry := by
  obtain ⟨reports, mid', hfirst, hlater⟩ := d.runScenarios_append a.scenarios false (adopted a now p)
  obtain ⟨hra, htime, hstate⟩ := Timed.Result.mk.inj (ha.symm.trans (d.result_run_of stamp a hfirst))
  obtain rfl := Option.some.inj hra
  obtain rfl : mid = mid' := Prod.ext htime hstate
  obtain ⟨more, stop, hmore, -⟩ := d.runScenarios_append b.scenarios false mid
  have hjoined : (d.runScenarios false (a.followedBy b).scenarios).result
      (adopted (a.followedBy b) now p).1 (adopted (a.followedBy b) now p).2 =
        ⟨some (reports ++ more), stop.1, stop.2⟩ := by
    refine hlater b.scenarios more stop ?_
    rwa [hgoes]
  rw [← adopted_of_empty hb mid] at hmore
  exact ⟨_, _, stop, d.result_run_of stamp b hmore, d.result_run_of stamp _ hjoined, rfl, rfl⟩

/-! ## The calls -/

/-- A run with a log of its calls ends as without it, and adds its calls to those in the log. -/
theorem result_run_logging (stamp : Nat → String) (plan : Plan) (now : Nat)
    (p : Progress σ) (earlier : List (Nat × Call)) {report : RunReport} {stop : Moment σ}
    (h : (d.run stamp plan).result now p = ⟨some report, stop.1, stop.2⟩) :
    (d.logging.run stamp plan).result now (p.logged earlier) =
      ⟨some report, stop.1,
        stop.2.logged (earlier ++ callsOf (d.logging.run stamp plan) now p)⟩ := by
  -- without the log it is the run without it, and with an empty log it adds the same calls
  have hseen := (mirrors_run d d.client.logging d.client.mapState_logging stamp plan).result now
    (p.logged earlier)
  have hafter := (mirrors_run d.logging d.client.logging (d.client.logging_after earlier) stamp
    plan).result now p.withLog
  change (d.run stamp plan).result now p =
    ⟨((d.logging.run stamp plan).result now (p.logged earlier)).value, _, _⟩ at hseen
  change (d.logging.run stamp plan).result now (p.logged (earlier ++ [])) = _ at hafter
  rw [h] at hseen
  rw [List.append_nil] at hafter
  have hcalls : ((d.logging.run stamp plan).result now (p.logged earlier)).state.world.1 =
      earlier ++ callsOf (d.logging.run stamp plan) now p := by
    rw [hafter]
    rfl
  obtain ⟨hvalue, htime, hstate⟩ := Timed.Result.mk.inj hseen
  rw [hvalue, htime, hstate, ← hcalls]
  rfl

theorem callsOf_run_followedBy (stamp : Nat → String) {a b : Plan} (hb : b.contracts = .empty)
    {now : Nat} {p : Progress σ} {ra rb : RunReport} {mid stop : Moment σ}
    (ha : (d.run stamp a).result now p = ⟨some ra, mid.1, mid.2⟩)
    (hgoes : d.haltedAfter false ra.scenarios = false)
    (hrunb : (d.run stamp b).result mid.1 mid.2 = ⟨some rb, stop.1, stop.2⟩) :
    callsOf (d.logging.run stamp (a.followedBy b)) now p =
      callsOf (d.logging.run stamp a) now p ++ callsOf (d.logging.run stamp b) mid.1 mid.2 := by
  -- the law of the two runs, for the client with the log: the second run finds the calls of the
  -- first one in it
  let logged : Moment (Logged σ) := (mid.1, mid.2.logged (callsOf (d.logging.run stamp a) now p))
  have hloga : (d.logging.run stamp a).result now p.withLog = ⟨some ra, logged.1, logged.2⟩ :=
    d.result_run_logging stamp a now p [] ha
  have hlogb := d.result_run_logging stamp b mid.1 mid.2 (callsOf (d.logging.run stamp a) now p)
    hrunb
  obtain ⟨rb', rab', stop', hrunb', hrunab', -, -⟩ :=
    d.logging.result_run_followedBy stamp hb hloga hgoes
  have hstop : stop'.2 = _ := (Timed.Result.mk.inj (hrunb'.symm.trans hlogb)).2.2
  have hjoined : (d.logging.run stamp (a.followedBy b)).result now p.withLog = _ := hrunab'
  rw [callsOf, hjoined, hstop]
  rfl

/-- Two runs one after the other come to the same as one run of the scenarios of both plans, for
any client and from any state: the reports of its scenarios are those of the two runs, its calls
are theirs, and it leaves the registry that the second one leaves. The second plan names no
contracts, and the first run is a success or the policy says to go on. -/
theorem run_append (stamp : Nat → String) (a b : Plan) (hlen : a.scenarios.length < UInt64.size)
    (hb : b.contracts = .empty) (now : Nat) (p : Progress σ) :
    ∃ (ra : RunReport) (mid : Moment σ),
      (d.run stamp a).result now p = ⟨some ra, mid.1, mid.2⟩
        ∧ (d.policy.continueOnFailure = true ∨ ra.isSuccess = true →
          ∃ (rb rab : RunReport) (stop : Moment σ),
            (d.run stamp b).result mid.1 mid.2 = ⟨some rb, stop.1, stop.2⟩
              ∧ (d.run stamp (a.followedBy b)).result now p = ⟨some rab, stop.1, stop.2⟩
              ∧ rab.scenarios = ra.scenarios ++ rb.scenarios ∧ rab.registry = rb.registry
              ∧ callsOf (d.logging.run stamp (a.followedBy b)) now p =
                callsOf (d.logging.run stamp a) now p
                  ++ callsOf (d.logging.run stamp b) mid.1 mid.2) := by
  obtain ⟨ra, trace, mid, ha, hscenarios, hreports, -, -, hsum, -⟩ := d.result_run stamp a now p
  refine ⟨ra, mid, ha, fun h => ?_⟩
  have hcount : ra.scenarios.length = a.scenarios.length := by
    rw [← hreports, ← hscenarios, List.length_map, List.length_map]
  have hgoes := d.haltedAfter_run hsum (hcount ▸ hlen) h
  obtain ⟨rb, rab, stop, hrunb, hrunab, hjoined, hregistry⟩ :=
    d.result_run_followedBy stamp hb ha hgoes
  exact ⟨rb, rab, stop, hrunb, hrunab, hjoined, hregistry,
    d.callsOf_run_followedBy stamp hb ha hgoes hrunb⟩

/-- A balance that is told and one that is refused, in two plans: the run of both makes the second
call at the instant at which the first run has ended. -/
theorem run_append_of_refused :
    let d : Deployment Script := ⟨Script.client, "osmo1", .standard, ⟨[], []⟩⟩
    let a : Plan := ⟨.empty, [.make "first" [.balance none "uosmo"]]⟩
    let b : Plan := ⟨.empty, [.make "second" [.balance none "uatom"]]⟩
    let p := Progress.start
      ⟨[⟨some 100, .ok (.coin ⟨"uosmo", .max⟩)⟩, ⟨some 50, .error (.queryRejected "no denom")⟩], []⟩
    ∃ (ra rb rab : RunReport) (mid stop : Moment Script),
      (d.run (fun _ => "") a).result 0 p = ⟨some ra, mid.1, mid.2⟩
        ∧ (d.run (fun _ => "") b).result mid.1 mid.2 = ⟨some rb, stop.1, stop.2⟩
        ∧ (d.run (fun _ => "") (a.followedBy b)).result 0 p = ⟨some rab, stop.1, stop.2⟩
        ∧ rab.scenarios = ra.scenarios ++ rb.scenarios
        ∧ rab.scenarios.map ScenarioReport.outcome = [.success, .failed]
        ∧ (callsOf (d.logging.run (fun _ => "") (a.followedBy b)) 0 p).map (·.1) = [0, 100] := by
  intro d a b p
  obtain ⟨ra, mid, ha, hgoes⟩ := run_append d (fun _ => "") a b (by decide) rfl 0 p
  have hsuccess : ((d.run (fun _ => "") a).result 0 p).value.map RunReport.isSuccess = some true := by
    decide +kernel
  rw [ha] at hsuccess
  obtain ⟨rb, rab, stop, hrunb, hrunab, hjoined, -, -⟩ := hgoes (.inr (Option.some.inj hsuccess))
  have houtcomes : ((d.run (fun _ => "") (a.followedBy b)).result 0 p).value.map
      (fun r => r.scenarios.map ScenarioReport.outcome) = some [.success, .failed] := by
    decide +kernel
  rw [hrunab] at houtcomes
  exact ⟨ra, rb, rab, mid, stop, ha, hrunb, hrunab, hjoined, Option.some.inj houtcomes,
    by decide +kernel⟩

end Deployment

end Rollout
