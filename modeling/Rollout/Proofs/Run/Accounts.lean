import Mathlib.Tactic.ByContra
import Rollout.Proofs.Run.Stages

/-!
# The account that a run gives

The counts, the first kind of failure and the verdict of a report, from the stages of its run. The
summary counts reports by their endings, so the four counts add up to the number of scenarios
(`counts_add`). A report counts as a failure only if its scenario was run; a run that was halted is
nevertheless no success, because the stage that halted it is counted (`firstFailureKind_of_first`).
-/

namespace Rollout

open Stage

/-! ## Counts -/

theorem counts_add (rs : List ScenarioReport) :
    rs.countP (fun r => r.outcome = .success) + rs.countP (fun r => r.outcome = .failed)
      + rs.countP (fun r => r.outcome = .timedOut) + rs.countP (fun r => r.outcome = .skipped)
      = rs.length := by
  induction rs with
  | nil => rfl
  | cons r rest ih =>
      cases h : r.outcome <;> simp [h] <;> omega

theorem toNat_ofNat_countP {rs : List ScenarioReport} (hlen : rs.length < UInt64.size)
    (q : ScenarioReport → Bool) : (UInt64.ofNat (rs.countP q)).toNat = rs.countP q :=
  UInt64.toNat_ofNat_of_lt' (Nat.lt_of_le_of_lt List.countP_le_length hlen)

/-- A run is a success by its counts if no scenario of it failed or timed out. -/
theorem isSuccess_iff {r : RunReport} (hsum : r.summary = .ofReports r.scenarios)
    (hlen : r.scenarios.length < UInt64.size) :
    r.isSuccess = true ↔ ∀ s ∈ r.scenarios, s.unsuccessful = false := by
  have zero_iff (e : Ending) :
      UInt64.ofNat (r.scenarios.countP fun s => s.outcome = e) = 0
        ↔ ∀ s ∈ r.scenarios, s.outcome ≠ e := by
    rw [← UInt64.toNat_inj, toNat_ofNat_countP hlen]
    simp [List.countP_eq_zero]
  simp only [RunReport.isSuccess, hsum, RunSummary.ofReports, Bool.and_eq_true, beq_iff_eq,
    zero_iff, ScenarioReport.unsuccessful, Bool.or_eq_false_iff, decide_eq_false_iff_not]
  exact ⟨fun h s hs => ⟨h.1 s hs, h.2 s hs⟩, fun h => ⟨fun s hs => (h s hs).1, fun s hs => (h s hs).2⟩⟩

/-! ## The first failure -/

namespace Stage

/-- The scenario is switched on and did not succeed. -/
def missed (g : Stage σ) : Bool := g.scenario.enabled && g.report.outcome ≠ .success

theorem missed_eq_false_iff (g : Stage σ) :
    g.missed = false ↔ (g.scenario.enabled = true → g.report.outcome = .success) := by
  simp [missed]

/-- What did not miss success is no failure of the run: it succeeded, or it was switched off. -/
theorem Orderly.unsuccessful_eq_false {d : Deployment σ} {before : List (Stage σ)} {g : Stage σ}
    (hg : Orderly d before g) (h : g.missed = false) : g.report.unsuccessful = false := by
  cases hon : g.scenario.enabled with
  | false =>
      rw [(hg.disabled hon).1]
      rfl
  | true =>
      simp [ScenarioReport.unsuccessful, (missed_eq_false_iff g).mp h hon]

/-- The first stage that missed success was not skipped, so it is a failure with a kind. -/
theorem Orderly.first_missed {d : Deployment σ} {before : List (Stage σ)} {g : Stage σ}
    (hg : Orderly d before g) (hbefore : ∀ g' ∈ before, g'.missed = false)
    (h : g.missed = true) :
    g.report.unsuccessful = true ∧ ∃ kind, g.report.errorKind = some kind := by
  simp only [missed, Bool.and_eq_true, decide_eq_true_eq] at h
  have hmay : MayRun d before := .inr fun g' hg' => (missed_eq_false_iff g').mp (hbefore g' hg')
  have hskip := ((hg.ran h.1).mpr hmay).2
  refine ⟨?_, hg.failure h.2 hskip⟩
  cases ho : g.report.outcome <;> simp_all [ScenarioReport.unsuccessful]

end Stage

section Trace

variable {d : Deployment σ} {r : RunReport} {trace : List (Stage σ)}

theorem orderly_of_mem (hord : AllOrderly d [] trace) {g : Stage σ} (hg : g ∈ trace) :
    ∃ before, Orderly d before g := by
  obtain ⟨pre, post, rfl⟩ := List.append_of_mem hg
  exact ⟨pre, hord pre g post rfl⟩

/-- The kind of failure of a run is that of the first stage that missed success. -/
theorem firstFailureKind_of_first {before after : List (Stage σ)} {g : Stage σ}
    {kind : FailureKind} (hord : AllOrderly d [] (before ++ g :: after))
    (hr : (before ++ g :: after).map Stage.report = r.scenarios)
    (hbefore : ∀ g' ∈ before, g'.missed = false) (hg : g.report.unsuccessful = true)
    (hkind : g.report.errorKind = some kind) : r.firstFailureKind = some kind := by
  have hnone : (before.map Stage.report).filter ScenarioReport.unsuccessful = [] := by
    rw [List.filter_eq_nil_iff]
    intro s hs
    obtain ⟨g', hg', rfl⟩ := List.mem_map.mp hs
    obtain ⟨pre, hpre⟩ := orderly_of_mem hord (List.mem_append_left _ hg')
    rw [hpre.unsuccessful_eq_false (hbefore g' hg')]
    exact Bool.false_ne_true
  rw [RunReport.firstFailureKind, ← hr, List.map_append, List.filter_append, hnone,
    List.nil_append, List.map_cons, List.filter_cons_of_pos hg, List.findSome?_cons, hkind]

/-- If a stage missed success, there is a first one, and the run has its kind of failure. -/
theorem exists_first_missed (hord : AllOrderly d [] trace)
    (hr : trace.map Stage.report = r.scenarios) (h : ∃ g ∈ trace, g.missed = true) :
    ∃ before g after kind, trace = before ++ g :: after ∧ (∀ g' ∈ before, g'.missed = false)
      ∧ g.missed = true ∧ g.report.unsuccessful = true ∧ g.report.errorKind = some kind
      ∧ r.firstFailureKind = some kind := by
  obtain ⟨g₀, hmem, hg₀⟩ := h
  obtain ⟨g, hfind⟩ := Option.isSome_iff_exists.mp (List.find?_isSome.mpr ⟨g₀, hmem, hg₀⟩)
  obtain ⟨hmissed, before, after, rfl, hbefore⟩ := List.find?_eq_some_iff_append.mp hfind
  have hbefore : ∀ g' ∈ before, g'.missed = false := fun g' hg' => by simpa using hbefore g' hg'
  obtain ⟨hun, kind, hkind⟩ := (hord before g after rfl).first_missed hbefore hmissed
  exact ⟨before, g, after, kind, rfl, hbefore, hmissed, hun, hkind,
    firstFailureKind_of_first hord hr hbefore hun hkind⟩

/-- By its counts a run is a success exactly if no stage missed success, although a skipped scenario
does not count as a failure. -/
theorem isSuccess_iff_stages (hord : AllOrderly d [] trace)
    (hr : trace.map Stage.report = r.scenarios) (hsum : r.summary = .ofReports r.scenarios)
    (hlen : r.scenarios.length < UInt64.size) :
    r.isSuccess = true ↔ ∀ g ∈ trace, g.missed = false := by
  rw [isSuccess_iff hsum hlen, ← hr]
  constructor
  · intro hall g hg
    by_contra hmissed
    obtain ⟨before, g', after, -, rfl, -, -, hun, -⟩ :=
      exists_first_missed hord hr ⟨g, hg, by simpa using hmissed⟩
    rw [hall g'.report (List.mem_map_of_mem (by simp))] at hun
    cases hun
  · intro hall s hs
    obtain ⟨g, hg, rfl⟩ := List.mem_map.mp hs
    obtain ⟨before, hg'⟩ := orderly_of_mem hord hg
    exact hg'.unsuccessful_eq_false (hall g hg)

end Trace

/-! ## The account -/

/-- The account that a report gives of a run from `start` to `stop` in the given stages. -/
structure RunAccount (d : Deployment σ) (plan : Plan) (start stop : Moment σ)
    (trace : List (Stage σ)) (report : RunReport) : Prop where
  /-- There is one report for each scenario of the plan, in the order of the plan. -/
  scenarios : trace.map Stage.scenario = plan.scenarios
  reports : trace.map Stage.report = report.scenarios
  names : report.scenarios.map (·.name) = plan.scenarios.map (·.name)
  /-- The stages follow each other, and each scenario was run or passed over as it should be. -/
  linked : Linked start trace stop
  orderly : AllOrderly d [] trace
  skipped : ∀ g ∈ trace, g.report.outcome = .skipped → g.report.steps = [] ∧ g.ended = g.started
  registry : report.registry = stop.2.registry
  /-- The counts are those of the scenarios. -/
  total : report.summary.total.toNat = plan.scenarios.length
  counts : report.summary.succeeded.toNat + report.summary.failed.toNat
    + report.summary.timedOut.toNat + report.summary.skipped.toNat = report.summary.total.toNat
  /-- A run is a success if every enabled scenario of it succeeded. -/
  success : report.isSuccess = true ↔
    ∀ g ∈ trace, g.scenario.enabled = true → g.report.outcome = .success
  verdict : report.isSuccess = true → report.verdict = .ok ()
  /-- Otherwise it fails with the kind of the first enabled scenario that did not succeed. -/
  failure : report.isSuccess = false → ∃ before g after kind, trace = before ++ g :: after
    ∧ (∀ g' ∈ before, g'.scenario.enabled = true → g'.report.outcome = .success)
    ∧ g.scenario.enabled = true ∧ g.report.outcome ≠ .success
    ∧ g.report.errorKind = some kind ∧ report.firstFailureKind = some kind
    ∧ report.verdict = .error (.runFailed kind
        (report.summary.failed.toNat + report.summary.timedOut.toNat) report.summary.total.toNat)

namespace Deployment

theorem result_adoptAll : ∀ (entries : List (String × String)) (now : Nat) (p : Progress σ),
    (adoptAll entries).result now p =
      ⟨some (), now, { p with
        registry := entries.foldl (fun g e => g.recordAddress e.1 e.2) p.registry }⟩
  | [], _, _ => rfl
  | (role, address) :: rest, now, p => by
      rw [adoptAll, Timed.result_bind]
      exact result_adoptAll rest now { p with registry := p.registry.recordAddress role address }

/-- The moment at which the scenarios of a plan begin: its contracts are in the registry. -/
def adopted (plan : Plan) (now : Nat) (p : Progress σ) : Moment σ :=
  (now, { p with
    registry := plan.contracts.entries.foldl (fun g e => g.recordAddress e.1 e.2) p.registry })

/-- A run reports what its scenarios have come to, and the registry that they have left. -/
theorem result_run_of (d : Deployment σ) (stamp : Nat → String) (plan : Plan) {now : Nat}
    {p : Progress σ} {reports : List ScenarioReport} {stop : Moment σ}
    (h : (d.runScenarios false plan.scenarios).result (adopted plan now p).1 (adopted plan now p).2 =
      ⟨some reports, stop.1, stop.2⟩) :
    (d.run stamp plan).result now p =
      ⟨some ⟨stamp now, stamp stop.1, reports, .ofReports reports, stop.2.registry⟩, stop.1,
        stop.2⟩ := by
  have hadopt : (adoptAll plan.contracts.entries).result now p =
      ⟨some (), (adopted plan now p).1, (adopted plan now p).2⟩ := result_adoptAll _ now p
  rw [run, Timed.result_bind]
  simp only [Timed.result_now]
  rw [Timed.result_bind_of hadopt, Timed.result_bind_of h]
  rfl

/-- A run ends with a report of the stages that its scenarios went through. -/
theorem result_run (d : Deployment σ) (stamp : Nat → String) (plan : Plan) (now : Nat)
    (p : Progress σ) :
    ∃ report trace stop, (d.run stamp plan).result now p = ⟨some report, stop.1, stop.2⟩
      ∧ trace.map Stage.scenario = plan.scenarios ∧ trace.map Stage.report = report.scenarios
      ∧ Linked (adopted plan now p) trace stop ∧ AllOrderly d [] trace
      ∧ report.summary = .ofReports report.scenarios ∧ report.registry = stop.2.registry := by
  obtain ⟨trace, stop, hrun, hmap, hlink, hord⟩ :=
    d.runScenarios_stages plan.scenarios false [] (adopted plan now p)
      (by simp [MayRun])
  exact ⟨_, trace, stop, d.result_run_of stamp plan hrun, hmap, rfl, hlink, hord, rfl, rfl⟩

/-- A run of a plan gives a full account, from any state and whatever the client does. The
length of the plan is bounded because the counts are 64-bit words; a longer list does not fit
into a memory. -/
theorem run_accounts (d : Deployment σ) (stamp : Nat → String) (plan : Plan) (now : Nat)
    (p : Progress σ) (hlen : plan.scenarios.length < UInt64.size) :
    ∃ report trace stop, (d.run stamp plan).result now p = ⟨some report, stop.1, stop.2⟩
      ∧ RunAccount d plan (adopted plan now p) stop trace report := by
  obtain ⟨report, trace, stop, hrun, hmap, hrep, hlink, hord, hsum, hreg⟩ :=
    d.result_run stamp plan now p
  have hcount : report.scenarios.length = plan.scenarios.length := by
    rw [← hrep, ← hmap, List.length_map, List.length_map]
  have hlen' : report.scenarios.length < UInt64.size := hcount ▸ hlen
  have hsuccess := isSuccess_iff_stages hord hrep hsum hlen'
  refine ⟨report, trace, stop, hrun,
    { scenarios := hmap
      reports := hrep
      names := ?_
      linked := hlink
      orderly := hord
      skipped := fun g hg hskip => (orderly_of_mem hord hg).choose_spec.of_skipped hskip
      registry := hreg
      total := ?_
      counts := ?_
      success := by simp only [hsuccess, missed_eq_false_iff]
      verdict := fun h => by rw [RunReport.verdict, if_pos h]
      failure := ?_ }⟩
  · rw [← hrep, ← hmap, List.map_map, List.map_map]
    refine List.map_congr_left fun g hg => ?_
    obtain ⟨before, hg'⟩ := orderly_of_mem hord hg
    exact hg'.name
  · rw [hsum, RunSummary.ofReports, UInt64.toNat_ofNat_of_lt' hlen', hcount]
  · simp only [hsum, RunSummary.ofReports, toNat_ofNat_countP hlen',
      UInt64.toNat_ofNat_of_lt' hlen', counts_add]
  · intro hfail
    have hmissed : ∃ g ∈ trace, g.missed = true := by
      by_contra hnone
      rw [hsuccess.mpr fun g hg => by simpa using fun h => hnone ⟨g, hg, h⟩] at hfail
      cases hfail
    obtain ⟨before, g, after, kind, htrace, hbefore, hg, -, hkind, hfirst⟩ :=
      exists_first_missed hord hrep hmissed
    simp only [missed, Bool.and_eq_true, decide_eq_true_eq] at hg
    refine ⟨before, g, after, kind, htrace, fun g' hg' => ?_, hg.1, hg.2, hkind, hfirst, ?_⟩
    · exact (missed_eq_false_iff g').mp (hbefore g' hg')
    · rw [RunReport.verdict, if_neg (by rw [hfail]; exact Bool.false_ne_true), hfirst]
      rfl

/-- A scenario that fails halts the run: the one after it is skipped, as is one that is off. -/
theorem run_accounts_of_first_failing :
    let d : Deployment Script := ⟨Script.client, "osmo1", .standard, ⟨[], []⟩⟩
    let plan : Plan := ⟨.empty,
      [.make "a" [.balance none "uosmo"], { Scenario.make "b" [] with enabled := false },
        .make "c" []]⟩
    ∃ report trace stop,
      (d.run (fun _ => "") plan).result 0 (.start ⟨[], []⟩) = ⟨some report, stop.1, stop.2⟩
        ∧ RunAccount d plan (adopted plan 0 (.start ⟨[], []⟩)) stop trace report
        ∧ report.firstFailureKind = some .connectionFailure
        ∧ report.scenarios.map (fun r => (r.outcome, r.error)) =
          [(.failed, some "no reply scripted"), (.skipped, some "disabled"),
            (.skipped, some "run halted after an earlier failure")] := by
  intro d plan
  obtain ⟨report, trace, stop, hrun, haccount⟩ :=
    run_accounts d (fun _ => "") plan 0 (.start ⟨[], []⟩) (by decide)
  have hreport : ((d.run (fun _ => "") plan).result 0 (.start ⟨[], []⟩)).value.map
      (fun r => (r.firstFailureKind, r.scenarios.map fun r => (r.outcome, r.error))) =
        some (some .connectionFailure, [(.failed, some "no reply scripted"),
          (.skipped, some "disabled"),
          (.skipped, some "run halted after an earlier failure")]) := by decide +kernel
  rw [hrun] at hreport
  obtain ⟨hkind, hscenarios⟩ := Prod.mk.inj (Option.some.inj hreport)
  exact ⟨report, trace, stop, hrun, haccount, hkind, hscenarios⟩

end Deployment

end Rollout
