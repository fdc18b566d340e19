import Rollout.Proofs.Timed.Course
import Rollout.Run

/-!
# The stages of a run

A run takes the scenarios of its plan one after the other. A `Stage` is what became of one of them:
its report, and the moments before and after it. The invariant of the loop is `runScenarios_stages`:
the stages of a run follow each other without a gap, and each of them is `Orderly`. A scenario that
is switched off is passed over, one that is on runs exactly if `MayRun` holds of the stages before
it, and is passed over otherwise. The halted flag of the loop is the negation of `MayRun`
(`mayRun_append`), which is what ties a later skipped scenario to an earlier recorded failure.

From the stages the counts and the verdict of the report follow: the first enabled scenario that did
not succeed was not skipped, so it is counted, and its kind of failure is the kind of the run
(`firstFailureKind_of_first`). The headline is `run_accounts`.
-/

namespace Rollout

/-- An instant of a rollout and how far the rollout is then. -/
abbrev Moment (σ : Type) := Nat × Progress σ

/-- What became of one scenario of a run. -/
structure Stage (σ : Type) where
  scenario : Scenario
  report : ScenarioReport
  started : Moment σ
  ended : Moment σ

namespace Stage

/-- The scenario was run, and its report is what that gave. -/
def Ran (d : Deployment σ) (g : Stage σ) : Prop :=
  (d.runScenario g.scenario).result g.started.1 g.started.2 =
      ⟨some g.report, g.ended.1, g.ended.2⟩
    ∧ g.report.outcome ≠ .skipped

/-- The scenario was passed over: nothing happened, no time passed, and the client is as it was. -/
def Passed (reason : String) (g : Stage σ) : Prop :=
  g.report = .skipped g.scenario.name reason ∧ g.ended = g.started

/-- An enabled scenario of the stages before did not stop the run. -/
def MayRun (d : Deployment σ) (before : List (Stage σ)) : Prop :=
  d.policy.continueOnFailure = true
    ∨ ∀ g ∈ before, g.scenario.enabled = true → g.report.outcome = .success

/-- What a run does with a scenario after the given stages. -/
structure Orderly (d : Deployment σ) (before : List (Stage σ)) (g : Stage σ) : Prop where
  name : g.report.name = g.scenario.name
  disabled : g.scenario.enabled = false → g.Passed "disabled"
  ran : g.scenario.enabled = true → (g.Ran d ↔ MayRun d before)
  halted : g.scenario.enabled = true → ¬MayRun d before →
    g.Passed "run halted after an earlier failure"
  failure : g.report.outcome ≠ .success → g.report.outcome ≠ .skipped →
    ∃ kind, g.report.errorKind = some kind

/-- Stages that lead from one moment to another, each from where the one before it ended. -/
def Linked : Moment σ → List (Stage σ) → Moment σ → Prop
  | start, [], stop => start = stop
  | start, g :: rest, stop => g.started = start ∧ Linked g.ended rest stop

/-- All stages are orderly after the given ones. -/
def AllOrderly (d : Deployment σ) (before trace : List (Stage σ)) : Prop :=
  ∀ pre g post, trace = pre ++ g :: post → Orderly d (before ++ pre) g

theorem allOrderly_nil (d : Deployment σ) (before : List (Stage σ)) : AllOrderly d before [] :=
  fun pre _ _ h => by cases pre <;> cases h

theorem allOrderly_cons {d : Deployment σ} {before rest : List (Stage σ)} {g : Stage σ}
    (hg : Orderly d before g) (hrest : AllOrderly d (before ++ [g]) rest) :
    AllOrderly d before (g :: rest) := by
  intro pre g' post h
  cases pre with
  | nil =>
      obtain ⟨rfl, rfl⟩ := List.cons.inj h
      simpa using hg
  | cons x pre =>
      obtain ⟨rfl, h'⟩ := List.cons.inj h
      simpa using hrest pre g' post h'

/-- One more stage lets the run go on unless it is an enabled scenario without success. -/
theorem mayRun_append (d : Deployment σ) (before : List (Stage σ)) (g : Stage σ) :
    MayRun d (before ++ [g]) ↔ MayRun d before
      ∧ (d.policy.continueOnFailure = true
        ∨ (g.scenario.enabled = true → g.report.outcome = .success)) := by
  simp only [MayRun, List.mem_append, List.mem_singleton]
  constructor
  · rintro (h | h)
    · exact ⟨.inl h, .inl h⟩
    · exact ⟨.inr fun g' hg' => h g' (.inl hg'), .inr (h g (.inr rfl))⟩
  · rintro ⟨h | h, h' | h'⟩
    · exact .inl h
    · exact .inl h
    · exact .inl h'
    · exact .inr fun g' hg' => hg'.elim (h g') fun heq => heq ▸ h'

/-- A skipped scenario was passed over: it has no steps, and nothing has changed. -/
theorem Orderly.of_skipped {d : Deployment σ} {before : List (Stage σ)} {g : Stage σ}
    (h : Orderly d before g) (hskip : g.report.outcome = .skipped) :
    g.report.steps = [] ∧ g.ended = g.started := by
  have passed {reason : String} (hp : g.Passed reason) :
      g.report.steps = [] ∧ g.ended = g.started := ⟨by rw [hp.1]; rfl, hp.2⟩
  cases hen : g.scenario.enabled with
  | false => exact passed (h.disabled hen)
  | true =>
      refine passed (h.halted hen fun hmay => ?_)
      exact ((h.ran hen).mpr hmay).2 hskip

end Stage

open Stage

namespace Deployment

/-! ## One scenario -/

theorem result_takeReports (now : Nat) (p : Progress σ) :
    takeReports.result now p = ⟨some p.steps, now, { p with steps := [] }⟩ := rfl

/-- The time that a scenario may take. -/
def deadline (d : Deployment σ) (s : Scenario) : Nat := s.timeoutMs d.policy.scenarioTimeoutMs

/-- The report of a scenario whose steps ended in the given way, or were cut off. -/
def reportOf (d : Deployment σ) (s : Scenario) (r : Option (Fallible Unit)) (elapsed : Nat)
    (steps : List StepReport) : ScenarioReport where
  name := s.name
  outcome := (endingOf (d.deadline s) r).1
  durationMs := reportedMs elapsed
  error := (endingOf (d.deadline s) r).2.1
  errorKind := (endingOf (d.deadline s) r).2.2
  steps := steps

/-- The report of a scenario says how its steps ended within its time. -/
theorem runScenario_of_within (d : Deployment σ) (s : Scenario) {now t : Nat} {p q : Progress σ}
    {r : Option (Fallible Unit)}
    (h : ((d.runSteps s.steps).within (d.deadline s)).result now p = ⟨some r, t, q⟩) :
    (d.runScenario s).result now p =
      ⟨some (d.reportOf s r (t - now) q.steps), t, { q with steps := [] }⟩ := by
  rw [runScenario, Timed.result_bind]
  simp only [Timed.result_now]
  rw [← deadline, Timed.result_bind_of h, Timed.result_bind, result_takeReports]
  simp only [Timed.result_bind, Timed.result_now, Timed.result_pure, reportOf]

theorem endingOf_outcome_ne_skipped (deadline : Nat) (r : Option (Fallible Unit)) :
    (endingOf deadline r).1 ≠ .skipped := by
  rcases r with _ | f | _
  · simp [endingOf]
  · simp only [endingOf]
    split <;> simp
  · simp [endingOf]

/-- An ending that is no success has a kind of failure. -/
theorem endingOf_kind (deadline : Nat) (r : Option (Fallible Unit))
    (h : (endingOf deadline r).1 ≠ .success) :
    ∃ kind, (endingOf deadline r).2.2 = some kind := by
  rcases r with _ | f | _
  · exact ⟨_, rfl⟩
  · exact ⟨_, rfl⟩
  · exact absurd rfl h

/-- A scenario that is run ends with a report. -/
theorem runScenario_ends (d : Deployment σ) (s : Scenario) (now : Nat) (p : Progress σ) :
    ∃ report t q, (d.runScenario s).result now p = ⟨some report, t, q⟩
      ∧ report.name = s.name ∧ report.outcome ≠ .skipped
      ∧ (report.outcome ≠ .success → ∃ kind, report.errorKind = some kind) := by
  obtain ⟨r, t, q, h⟩ := Timed.result_within (d.deadline s) (d.runSteps s.steps) now p
  exact ⟨_, t, _, d.runScenario_of_within s h, rfl, endingOf_outcome_ne_skipped _ r,
    endingOf_kind _ r⟩

/-! ## The loop -/

/-- An act goes through the given scenarios in orderly stages, `before` being the stages so far. -/
def Staged (d : Deployment σ) (before : List (Stage σ)) (scenarios : List Scenario)
    (start : Moment σ) (act : Act σ (List ScenarioReport)) : Prop :=
  ∃ trace stop, act.result start.1 start.2 = ⟨some (trace.map Stage.report), stop.1, stop.2⟩
    ∧ trace.map Stage.scenario = scenarios ∧ Linked start trace stop
    ∧ AllOrderly d before trace

/-- One more stage in front of those of the scenarios after it. -/
theorem Staged.cons {d : Deployment σ} {before : List (Stage σ)} {rest : List Scenario}
    {g : Stage σ} (hg : Orderly d before g) (first : Act σ ScenarioReport)
    (next : ScenarioReport → Act σ (List ScenarioReport))
    (hfirst : first.result g.started.1 g.started.2 = ⟨some g.report, g.ended.1, g.ended.2⟩)
    (h : Staged d (before ++ [g]) rest g.ended (next g.report)) :
    Staged d before (g.scenario :: rest) g.started
      (first >>= fun report => next report >>= fun reports => pure (report :: reports)) := by
  obtain ⟨trace, stop, hrun, hmap, hlink, hord⟩ := h
  refine ⟨g :: trace, stop, ?_, by rw [List.map_cons, hmap], ⟨rfl, hlink⟩, allOrderly_cons hg hord⟩
  rw [Timed.result_bind_of hfirst, Timed.result_bind_of hrun, List.map_cons]
  rfl

theorem orderly_disabled (d : Deployment σ) (before : List (Stage σ)) {s : Scenario}
    (hoff : s.enabled = false) (m : Moment σ) :
    Orderly d before ⟨s, .skipped s.name "disabled", m, m⟩ where
  name := rfl
  disabled _ := ⟨rfl, rfl⟩
  ran hon := absurd (hoff.symm.trans hon) Bool.false_ne_true
  halted hon := absurd (hoff.symm.trans hon) Bool.false_ne_true
  failure _ h := absurd rfl h

theorem orderly_halted {d : Deployment σ} {before : List (Stage σ)} {s : Scenario}
    (hon : s.enabled = true) (hmay : ¬MayRun d before) (m : Moment σ) :
    Orderly d before ⟨s, .skipped s.name "run halted after an earlier failure", m, m⟩ where
  name := rfl
  disabled hoff := absurd (hoff.symm.trans hon) Bool.false_ne_true
  ran _ := ⟨fun h => absurd rfl h.2, fun h => absurd h hmay⟩
  halted _ _ := ⟨rfl, rfl⟩
  failure _ h := absurd rfl h

theorem orderly_ran {d : Deployment σ} {before : List (Stage σ)} {s : Scenario}
    (hon : s.enabled = true) (hmay : MayRun d before) {m stop : Moment σ} {report : ScenarioReport}
    (hrun : (d.runScenario s).result m.1 m.2 = ⟨some report, stop.1, stop.2⟩)
    (hname : report.name = s.name) (hskip : report.outcome ≠ .skipped)
    (hkind : report.outcome ≠ .success → ∃ kind, report.errorKind = some kind) :
    Orderly d before ⟨s, report, m, stop⟩ where
  name := hname
  disabled hoff := absurd (hoff.symm.trans hon) Bool.false_ne_true
  ran _ := ⟨fun _ => hmay, fun _ => ⟨hrun, hskip⟩⟩
  halted _ h := absurd hmay h
  failure h _ := hkind h

/-- The stages of the scenarios that are run from here: the flag says that the stages so far have
halted the run. -/
theorem runScenarios_stages (d : Deployment σ) :
    ∀ (scenarios : List Scenario) (halted : Bool) (before : List (Stage σ)) (m : Moment σ),
      (halted = true ↔ ¬MayRun d before) →
        Staged d before scenarios m (d.runScenarios halted scenarios)
  | [], _, before, m, _ => ⟨[], m, rfl, rfl, rfl, allOrderly_nil d before⟩
  | s :: rest, halted, before, m, hflag => by
      rw [runScenarios]
      cases hon : s.enabled with
      | false =>
          have hrest := runScenarios_stages d rest halted
            (before ++ [⟨s, .skipped s.name "disabled", m, m⟩]) m
            (by simpa [mayRun_append, hon] using hflag)
          exact Staged.cons (orderly_disabled d before hon m)
            (pure (.skipped s.name "disabled")) (fun _ => d.runScenarios halted rest) rfl hrest
      | true =>
          cases halted with
          | true =>
              have hmay : ¬MayRun d before := hflag.mp rfl
              have hrest := runScenarios_stages d rest true
                (before ++ [⟨s, .skipped s.name "run halted after an earlier failure", m, m⟩]) m
                (by simp [mayRun_append, hmay])
              exact Staged.cons (orderly_halted hon hmay m)
                (pure (.skipped s.name "run halted after an earlier failure"))
                (fun _ => d.runScenarios true rest) rfl hrest
          | false =>
              have hmay : MayRun d before :=
                Classical.byContradiction fun h => absurd (hflag.mpr h) Bool.false_ne_true
              obtain ⟨report, t, q, hs, hname, hskip, hkind⟩ := d.runScenario_ends s m.1 m.2
              let g : Stage σ := ⟨s, report, m, (t, q)⟩
              have hg : Orderly d before g := orderly_ran hon hmay hs hname hskip hkind
              have hflag' : (report.outcome ≠ .success && !d.policy.continueOnFailure) = true
                  ↔ ¬MayRun d (before ++ [g]) := by
                simp [mayRun_append, hmay, hon, g, and_comm]
              have hrest := runScenarios_stages d rest _ (before ++ [g]) (t, q) hflag'
              exact Staged.cons hg (d.runScenario s)
                (fun report => d.runScenarios
                  (report.outcome ≠ .success && !d.policy.continueOnFailure) rest) hs hrest

end Deployment

end Rollout
