import Rollout.Proofs.Run.FirstFailure
import Rollout.Proofs.Run.StepLog

/-!
# How a scenario ends

A scenario whose deadline does not expire ends as its steps do. Every step that is started then
comes to its own end, and the steps are all those of the scenario if the policy says to go on, and
otherwise those up to the first one that fails. What they come to together is the first failure
among them (`conclusion`), and the report of the scenario says no more and no less than that.

The parts are read off `Executes`, which says what becomes of steps in a limit of time:
`Executes.whole`, `Executes.started_all`, `Executes.started_up_to_failure` and `Executes.value`. The
headline is `runScenario_concludes`.
-/

namespace Rollout

namespace Visit

/-- The failure of a step, if it has ended with one. -/
def failure? (v : Visit σ) : Option Failure :=
  match v.result with
  | some (.error f) => some f
  | _ => none

/-- A step has come to its end, where it comes to if nobody cuts it off. -/
def Whole (d : Deployment σ) (v : Visit σ) : Prop :=
  ∃ r, v.result = some r ∧
    (d.runStep v.step).result v.started.1 v.started.2 = ⟨some r, v.ended.1, v.ended.2⟩

variable {d : Deployment σ} {v : Visit σ}

theorem Ran.whole (h : v.Ran d) {r : Fallible Unit} (hr : v.result = some r) : v.Whole d := by
  refine ⟨r, hr, ?_⟩
  obtain ⟨ms, hran⟩ := h
  rw [hr] at hran
  rcases Course.finish_cut (d.runStep v.step v.started.1 v.started.2) ms
    v.started.1 with ⟨a, t, q, hfinish, -, hcut⟩ | ⟨q, hcut⟩
  · obtain ⟨hvalue, rfl, rfl⟩ := Timed.Result.mk.inj (hran.symm.trans hcut)
    cases hvalue
    exact hfinish
  · obtain ⟨hvalue, -, -⟩ := Timed.Result.mk.inj (hran.symm.trans hcut)
    cases hvalue

theorem Whole.result_of_not_failed (h : v.Whole d) (hnone : v.failure? = none) :
    v.result = some (.ok ()) := by
  obtain ⟨r, hr, -⟩ := h
  rw [failure?, hr] at hnone
  cases r with
  | ok _ => exact hr
  | error f => cases hnone

theorem failure?_of_ok (h : v.result = some (.ok ())) : v.failure? = none := by
  rw [failure?, h]

theorem failure?_of_error {f : Failure} (h : v.result = some (.error f)) : v.failure? = some f := by
  rw [failure?, h]

end Visit

/-- What steps come to together: their first failure, if there is one. -/
def conclusion (visits : List (Visit σ)) : Fallible Unit :=
  match visits.findSome? Visit.failure? with
  | some f => .error f
  | none => .ok ()

theorem conclusion_ok (visits : List (Visit σ)) :
    conclusion visits = .ok () ↔ ∀ v ∈ visits, v.failure? = none := by
  rw [← List.findSome?_eq_none_iff, conclusion]
  cases visits.findSome? Visit.failure? <;> simp

theorem conclusion_error {visits : List (Visit σ)} {f : Failure}
    (h : visits.findSome? Visit.failure? = some f) : conclusion visits = .error f := by
  rw [conclusion, h]

theorem conclusion_cons_ok {v : Visit σ} (h : v.failure? = none) (visits : List (Visit σ)) :
    conclusion (v :: visits) = conclusion visits := by
  rw [conclusion, List.findSome?_cons, h, conclusion]

theorem conclusion_cons_error {v : Visit σ} {f : Failure} (h : v.failure? = some f)
    (visits : List (Visit σ)) : conclusion (v :: visits) = .error f :=
  conclusion_error (by rw [List.findSome?_cons, h])

/-- Steps are started without a failure until all are through, or up to the first that fails. -/
def UpToFailure (visits : List (Visit σ)) (steps : List Step) : Prop :=
  (visits.map Visit.step = steps ∧ ∀ v ∈ visits, v.failure? = none)
    ∨ ∃ done last f rest, visits = done ++ [last] ∧ (∀ v ∈ done, v.failure? = none)
      ∧ last.failure? = some f ∧ steps = visits.map Visit.step ++ rest

theorem UpToFailure.all {visits : List (Visit σ)} {steps : List Step}
    (h : UpToFailure visits steps) (hnone : ∀ v ∈ visits, v.failure? = none) :
    visits.map Visit.step = steps := by
  rcases h with ⟨hall, -⟩ | ⟨done, last, f, rest, rfl, -, hlast, -⟩
  · exact hall
  · have hmem : last ∈ done ++ [last] := List.mem_append_right done List.mem_cons_self
    rw [hnone last hmem] at hlast
    cases hlast

namespace Executes

variable {d : Deployment σ} {m stop : Moment σ} {steps : List Step} {visits : List (Visit σ)}
  {r : Option (Fallible Unit)}

/-- If steps are not cut off, none of them is. -/
theorem whole (h : Executes d m steps visits r stop) (hr : r.isSome = true) :
    ∀ v ∈ visits, v.Whole d := by
  induction h with
  | through m => exact fun _ hv => absurd hv List.not_mem_nil
  | passed hran hok _ ih =>
      intro v hv
      rcases List.mem_cons.mp hv with rfl | hv
      · exact hran.whole hok
      · exact ih hr v hv
  | halted rest hran hfailed _ =>
      intro v hv
      obtain rfl := List.mem_singleton.mp hv
      exact hran.whole hfailed
  | wentOn hran hfailed _ _ ih =>
      intro v hv
      rw [Option.isSome_map] at hr
      rcases List.mem_cons.mp hv with rfl | hv
      · exact hran.whole hfailed
      · exact ih hr v hv
  | cutOff rest hran hcut => cases hr

/-- Steps that are not cut off come to their first failure. -/
theorem value (h : Executes d m steps visits r stop) (hr : r.isSome = true) :
    r = some (conclusion visits) := by
  induction h with
  | through m => rfl
  | passed _ hok _ ih => rw [ih hr, conclusion_cons_ok (Visit.failure?_of_ok hok)]
  | halted rest _ hfailed _ => rw [conclusion_cons_error (Visit.failure?_of_error hfailed)]
  | wentOn _ hfailed _ _ ih =>
      -- whatever the steps after a failure come to, it stays the first one
      rw [Option.isSome_map] at hr
      rw [ih hr, conclusion_cons_error (Visit.failure?_of_error hfailed)]
      rfl
  | cutOff rest _ _ => cases hr

theorem started_all (h : Executes d m steps visits r stop) (hr : r.isSome = true)
    (hgo : d.policy.continueOnFailure = true) : visits.map Visit.step = steps := by
  induction h with
  | through m => rfl
  | passed _ _ _ ih => rw [List.map_cons, ih hr]
  | halted rest _ _ hgo' =>
      rw [hgo] at hgo'
      cases hgo'
  | wentOn _ _ _ _ ih =>
      rw [Option.isSome_map] at hr
      rw [List.map_cons, ih hr]
  | cutOff rest _ _ => cases hr

theorem started_up_to_failure (h : Executes d m steps visits r stop) (hr : r.isSome = true)
    (hgo : d.policy.continueOnFailure = false) : UpToFailure visits steps := by
  induction h with
  | through m => exact .inl ⟨rfl, fun _ hv => absurd hv List.not_mem_nil⟩
  | @passed v _ visits _ _ _ hok _ ih =>
      have hv := Visit.failure?_of_ok hok
      rcases ih hr with ⟨hall, hnone⟩ | ⟨done, last, f, rest, rfl, hdone, hlast, rfl⟩
      · exact .inl ⟨by rw [List.map_cons, hall], List.forall_mem_cons.mpr ⟨hv, hnone⟩⟩
      · exact .inr ⟨v :: done, last, f, rest, rfl, List.forall_mem_cons.mpr ⟨hv, hdone⟩, hlast,
          rfl⟩
  | @halted v f rest _ hfailed _ =>
      exact .inr ⟨[], v, f, rest, rfl, fun _ hv => absurd hv List.not_mem_nil,
        Visit.failure?_of_error hfailed, rfl⟩
  | wentOn _ _ hgo' _ _ =>
      rw [hgo] at hgo'
      cases hgo'
  | cutOff rest _ _ => cases hr

end Executes

theorem StepLog.of_success {visits : List (Visit σ)} {log : List StepReport}
    (h : StepLog visits log) (hok : ∀ v ∈ visits, v.result = some (.ok ())) :
    List.Forall₂ (fun step report =>
      ∃ ms, report = ⟨step.operation, step.role, .success, ms, none, none⟩)
      (visits.map Visit.step) log := by
  induction h with
  | nil => exact .nil
  | cons hleaves _ ih =>
      obtain ⟨hv, hrest⟩ := List.forall_mem_cons.mp hok
      rw [Visit.Leaves, hv] at hleaves
      cases hleaves with
      | reported _ hreport =>
          cases hreport with
          | succeeded ms => exact .cons ⟨ms, rfl⟩ (ih hrest)

namespace Deployment

/-- How a scenario goes whose deadline does not expire: the steps that are run from a moment on, and
what the report says of them. -/
structure Concludes (d : Deployment σ) (s : Scenario) (m : Moment σ) (visits : List (Visit σ))
    (stop : Moment σ) (report : ScenarioReport) : Prop where
  executes : Executes d m s.steps visits (some (conclusion visits)) stop
  whole : ∀ v ∈ visits, v.Whole d
  /-- The steps that are run are all of them, or those up to the first one that fails. -/
  all : d.policy.continueOnFailure = true → visits.map Visit.step = s.steps
  upToFailure : d.policy.continueOnFailure = false → UpToFailure visits s.steps
  /-- The scenario is a success if no step fails; otherwise it has the first failure as its own. -/
  success : report.outcome = .success ↔ ∀ v ∈ visits, v.failure? = none
  failure : ∀ f, visits.findSome? Visit.failure? = some f →
    report.outcome = (if f.kind = .timeout then .timedOut else .failed)
      ∧ report.error = some f.detail ∧ report.errorKind = some f.kind
  /-- A success has one report for each step of the scenario, on its operation. -/
  log : report.outcome = .success → ∃ log, report.steps = m.2.steps ++ log
    ∧ List.Forall₂ (fun step report =>
      ∃ ms, report = ⟨step.operation, step.role, .success, ms, none, none⟩) s.steps log

variable (d : Deployment σ)

theorem endingOf_success (deadline : Nat) (r : Fallible Unit) :
    (endingOf deadline (some r)).1 = .success ↔ r = .ok () := by
  cases r with
  | ok _ => exact iff_of_true rfl rfl
  | error f =>
      refine iff_of_false ?_ fun h => by cases h
      simp only [endingOf]
      split <;> simp

/-- A scenario whose deadline does not expire ends with a report on the steps that its policy makes
it run. -/
theorem runScenario_concludes (s : Scenario) {now : Nat} {p : Progress σ}
    (hexp : ¬d.Expires s now p) :
    ∃ report visits stop,
      (d.runScenario s).result now p = ⟨some report, stop.1, { stop.2 with steps := [] }⟩
        ∧ Concludes d s (now, p) visits stop report := by
  obtain ⟨r, t, q, visits, hcut, hrun, hexec⟩ := d.runScenario_executes s now p
  -- the deadline does not expire, so the steps have come to a result of their own
  have hr : r.isSome = true := by
    cases r with
    | none => exact absurd (congrArg Timed.Result.value hcut) hexp
    | some _ => rfl
  obtain ⟨log, hlog, hsteps⟩ := hexec.step_log
  have hwhole := hexec.whole hr
  have hsuccess : (d.reportOf s r (t - now) q.steps).outcome = .success ↔
      ∀ v ∈ visits, v.failure? = none := by
    rw [hexec.value hr, ← conclusion_ok]
    exact endingOf_success _ _
  refine ⟨_, visits, (t, q), hrun,
    { executes := hexec.value hr ▸ hexec
      whole := hwhole
      all := hexec.started_all hr
      upToFailure := hexec.started_up_to_failure hr
      success := hsuccess
      failure := ?_
      log := ?_ }⟩
  · intro f hf
    rw [hexec.value hr, conclusion_error hf]
    exact ⟨rfl, rfl, rfl⟩
  · intro houtcome
    have hnone := hsuccess.mp houtcome
    have hall : visits.map Visit.step = s.steps := by
      cases hgo : d.policy.continueOnFailure with
      | true => exact hexec.started_all hr hgo
      | false => exact (hexec.started_up_to_failure hr hgo).all hnone
    refine ⟨log, hsteps, ?_⟩
    rw [← hall]
    exact hlog.of_success fun v hv => (hwhole v hv).result_of_not_failed (hnone v hv)

/-- The first of two balances is refused and the second one is never answered. The scenario goes on
after the refusal, and ends with it: it has failed, and has not timed out. -/
theorem runScenario_concludes_refused_then_timeout :
    let d : Deployment Script := ⟨Script.client, "osmo1", ⟨60, 600, true, "", .standard⟩, ⟨[], []⟩⟩
    let s := Scenario.make "balances" [.balance none "uosmo", .balance none "uatom"]
    let p := Progress.start
      ⟨[⟨some 100, .error (.queryRejected "no such denom")⟩, ⟨none, .error (.connection "")⟩], []⟩
    ∃ report visits stop,
      (d.runScenario s).result 0 p = ⟨some report, stop.1, { stop.2 with steps := [] }⟩
        ∧ Concludes d s (0, p) visits stop report ∧ visits.map Visit.step = s.steps
        ∧ report.outcome = .failed ∧ report.error = some "no such denom"
        ∧ report.errorKind = some .queryRejected
        ∧ report.steps.map StepReport.errorKind = [some .queryRejected, some .timeout] := by
  intro d s p
  have hexp : ¬d.Expires s 0 p := mt (d.expires_bounds s 0 p).2 (by decide +kernel)
  obtain ⟨report, visits, stop, hrun, hconcludes⟩ := runScenario_concludes d s hexp
  have hreport : ((d.runScenario s).result 0 p).value.map
      (fun r => (r.outcome, r.error, r.errorKind, r.steps.map StepReport.errorKind)) =
        some (.failed, some "no such denom", some .queryRejected,
          [some .queryRejected, some .timeout]) := by decide +kernel
  rw [hrun] at hreport
  simp only [Option.map_some, Option.some.injEq, Prod.mk.injEq] at hreport
  exact ⟨report, visits, stop, hrun, hconcludes, hconcludes.all rfl, hreport⟩

end Deployment

end Rollout
