import Rollout.Proofs.Deployment.Alike
import Rollout.Proofs.Run.Accounts

/-!
# The steps of a run

A run visits steps one after the other, over all its scenarios. A `Visit` is what became of
one step: it ran from the moment at which it was started until it ended or the deadline of its
scenario cut it off. `Executes` says which visits the steps of one scenario come to, and with
which result: every scenario goes so (`runScenario_executes`).

Between two visits nothing happens but that the reports are taken, so what holds of a run is
shown by induction over its visits (`Visits`), one step at a time. The headline is
`run_visits`: every run is such a walk through steps of its plan, in the order of the plan.
-/

namespace Rollout

/-- One step of a run, from where it was started to where it ended or was cut off. -/
structure Visit (σ : Type) where
  step : Step
  started : Moment σ
  result : Option (Fallible Unit)
  ended : Moment σ

/-- The step was run, with some time to end in. -/
def Visit.Ran (d : Deployment σ) (v : Visit σ) : Prop :=
  ∃ ms, ((d.runStep v.step).within ms).result v.started.1 v.started.2 =
    ⟨some v.result, v.ended.1, v.ended.2⟩

/-- Nothing happens between two moments but that reports are taken. -/
structure Adjacent (a b : Moment σ) : Prop where
  time : a.1 = b.1
  registry : a.2.registry = b.2.registry
  notes : a.2.notes = b.2.notes
  world : a.2.world = b.2.world

theorem Adjacent.refl (m : Moment σ) : Adjacent m m := ⟨rfl, rfl, rfl, rfl⟩

theorem Adjacent.trans {a b c : Moment σ} (h : Adjacent a b) (h' : Adjacent b c) : Adjacent a c :=
  ⟨h.time.trans h'.time, h.registry.trans h'.registry, h.notes.trans h'.notes,
    h.world.trans h'.world⟩

/-- A walk from one moment to another: visits of steps, each from where the one before it ended. -/
inductive Visits (d : Deployment σ) : Moment σ → List (Visit σ) → Moment σ → Prop
  | done {m stop : Moment σ} (h : Adjacent m stop) : Visits d m [] stop
  | next {m stop : Moment σ} {v : Visit σ} {rest : List (Visit σ)} (h : Adjacent m v.started)
      (hran : v.Ran d) (hrest : Visits d v.ended rest stop) : Visits d m (v :: rest) stop

namespace Visits

variable {d : Deployment σ} {m m' stop : Moment σ} {visits later : List (Visit σ)}

theorem of_adjacent (h : Adjacent m m') (hvisits : Visits d m' visits stop) :
    Visits d m visits stop := by
  cases hvisits with
  | done h' => exact .done (h.trans h')
  | next h' hran hrest => exact .next (h.trans h') hran hrest

theorem append (h : Visits d m visits m') (hlater : Visits d m' later stop) :
    Visits d m (visits ++ later) stop := by
  induction h with
  | done h => exact hlater.of_adjacent h
  | next h hran _ ih => exact .next h hran (ih hlater)

theorem ran (h : Visits d m visits stop) : ∀ v ∈ visits, v.Ran d := by
  induction h with
  | done _ => exact fun _ hv => absurd hv List.not_mem_nil
  | next _ hran _ ih => exact fun v hv => (List.mem_cons.mp hv).elim (· ▸ hran) (ih v)

end Visits

/-! ## The steps of a scenario -/

/-- What becomes of steps that are run in a limit of time: the visits of those that are started,
each from where the one before it ended, what they come to together, and where. Steps are visited
until they are through, one fails and the policy does not say to go on, or one is cut off. If they
go on after a failure, it is what they come to. -/
inductive Executes (d : Deployment σ) :
    Moment σ → List Step → List (Visit σ) → Option (Fallible Unit) → Moment σ → Prop
  | through (m : Moment σ) : Executes d m [] [] (some (.ok ())) m
  | passed {v : Visit σ} {rest : List Step} {visits : List (Visit σ)} {r : Option (Fallible Unit)}
      {stop : Moment σ} (hran : v.Ran d) (hok : v.result = some (.ok ()))
      (hrest : Executes d v.ended rest visits r stop) :
      Executes d v.started (v.step :: rest) (v :: visits) r stop
  | halted {v : Visit σ} {f : Failure} (rest : List Step) (hran : v.Ran d)
      (hfailed : v.result = some (.error f)) (hgo : d.policy.continueOnFailure = false) :
      Executes d v.started (v.step :: rest) [v] (some (.error f)) v.ended
  | wentOn {v : Visit σ} {f : Failure} {rest : List Step} {visits : List (Visit σ)}
      {r : Option (Fallible Unit)} {stop : Moment σ} (hran : v.Ran d)
      (hfailed : v.result = some (.error f)) (hgo : d.policy.continueOnFailure = true)
      (hrest : Executes d v.ended rest visits r stop) :
      Executes d v.started (v.step :: rest) (v :: visits) (r.map fun _ => .error f) stop
  | cutOff {v : Visit σ} (rest : List Step) (hran : v.Ran d) (hcut : v.result = none) :
      Executes d v.started (v.step :: rest) [v] none v.ended

namespace Executes

variable {d : Deployment σ} {m stop : Moment σ} {steps : List Step} {visits : List (Visit σ)}
  {r : Option (Fallible Unit)}

theorem walk (h : Executes d m steps visits r stop) : Visits d m visits stop := by
  induction h with
  | through m => exact .done (.refl m)
  | passed hran _ _ ih => exact .next (.refl _) hran ih
  | halted _ hran _ _ => exact .next (.refl _) hran (.done (.refl _))
  | wentOn hran _ _ _ ih => exact .next (.refl _) hran ih
  | cutOff _ hran _ => exact .next (.refl _) hran (.done (.refl _))

/-- The steps that are started are the first ones. -/
theorem started_prefix (h : Executes d m steps visits r stop) :
    visits.map Visit.step <+: steps := by
  induction h with
  | through _ => exact List.prefix_refl []
  | passed _ _ _ ih => exact (List.prefix_cons_inj _).mpr ih
  | halted rest _ _ _ => exact (List.prefix_cons_inj _).mpr (List.nil_prefix)
  | wentOn _ _ _ _ ih => exact (List.prefix_cons_inj _).mpr ih
  | cutOff rest _ _ => exact (List.prefix_cons_inj _).mpr (List.nil_prefix)

end Executes

namespace Deployment

/-- A walk from one moment to another through some of the given steps, in their order. -/
def Walks (d : Deployment σ) (m : Moment σ) (steps : List Step) (stop : Moment σ) : Prop :=
  ∃ visits, Visits d m visits stop ∧ (visits.map Visit.step).Sublist steps

variable (d : Deployment σ)

theorem walks_nil {m stop : Moment σ} (h : Adjacent m stop) (steps : List Step) :
    d.Walks m steps stop := ⟨[], .done h, List.nil_sublist steps⟩

variable {d}

theorem Walks.append {m m' stop : Moment σ} {steps later : List Step} (h : d.Walks m steps m')
    (hlater : d.Walks m' later stop) : d.Walks m (steps ++ later) stop := by
  obtain ⟨visits, hvisits, hsub⟩ := h
  obtain ⟨visits', hvisits', hsub'⟩ := hlater
  exact ⟨visits ++ visits', hvisits.append hvisits', by
    rw [List.map_append]
    exact hsub.append hsub'⟩

variable (d)

/-- A step that is run in a limit of time. -/
theorem ran_of_cut (step : Step) {left now t : Nat} {p q : Progress σ} {r : Option (Fallible Unit)}
    (h : ((d.runStep step now p).cut left).finish now = ⟨some r, t, q⟩) :
    Visit.Ran d ⟨step, (now, p), r, (t, q)⟩ :=
  ⟨left, h⟩

/-- Steps that are run in a limit of time end, or are cut off, where their visits lead. -/
theorem runSteps_executes :
    ∀ (steps : List Step) (left now : Nat) (p : Progress σ),
      ∃ r t q visits, ((d.runSteps steps now p).cut left).finish now = ⟨some r, t, q⟩
        ∧ Executes d (now, p) steps visits r (t, q)
  | [], _, now, p => ⟨_, now, p, [], rfl, .through _⟩
  | step :: rest, left, now, p => by
      have hrun : ((d.runSteps (step :: rest) now p).cut left).finish now = _ :=
        Course.finish_cut_andThen _ (d.runStep step now p) left now
      rcases Course.finish_cut (d.runStep step now p) left now with
        ⟨r, t, q, -, -, hcut⟩ | ⟨q, hcut⟩
      · have hran := d.ran_of_cut step hcut
        obtain ⟨r', t', q', visits, hrest, hexec⟩ :=
          runSteps_executes rest (left - (t - now)) t q
        rw [hcut] at hrun
        cases r with
        | ok _ => exact ⟨r', t', q', _, hrun.trans hrest, .passed hran rfl hexec⟩
        | error f =>
            cases hgo : d.policy.continueOnFailure with
            | true =>
                -- what comes after a failure is run for its effects only
                have hignored := Course.finish_cut_andThen
                  (fun _ _ q => .ends (.error f : Fallible Unit) q)
                  (d.runSteps rest t q) (left - (t - now)) t
                rw [hrest] at hignored
                simp only [hgo, if_true] at hrun
                refine ⟨r'.map fun _ => .error f, t', q', _, hrun.trans ?_,
                  .wentOn hran rfl hgo hexec⟩
                cases r' with
                | some _ => exact hignored
                | none => exact hignored
            | false =>
                simp only [hgo, Bool.false_eq_true, if_false] at hrun
                exact ⟨_, t, q, _, hrun, .halted rest hran rfl hgo⟩
      · rw [hcut] at hrun
        exact ⟨none, _, q, _, hrun, .cutOff rest (d.ran_of_cut step hcut) rfl⟩

/-- The report of a scenario says what its steps have come to in its time. -/
theorem runScenario_executes (s : Scenario) (now : Nat) (p : Progress σ) :
    ∃ r t q visits, ((d.runSteps s.steps).within (d.deadline s)).result now p = ⟨some r, t, q⟩
      ∧ (d.runScenario s).result now p =
        ⟨some (d.reportOf s r (t - now) q.steps), t, { q with steps := [] }⟩
      ∧ Executes d (now, p) s.steps visits r (t, q) := by
  obtain ⟨r, t, q, visits, hcut, hexec⟩ := d.runSteps_executes s.steps (d.deadline s) now p
  exact ⟨r, t, q, visits, hcut, d.runScenario_of_within s hcut, hexec⟩

/-- A stage of a run visits steps of its scenario. -/
theorem walks_stage {before : List (Stage σ)} {g : Stage σ} (hg : Stage.Orderly d before g) :
    d.Walks g.started g.scenario.steps g.ended := by
  have passed {reason : String} (h : g.Passed reason) :
      d.Walks g.started g.scenario.steps g.ended :=
    d.walks_nil (h.2 ▸ .refl _) _
  cases hon : g.scenario.enabled with
  | false => exact passed (hg.disabled hon)
  | true =>
      by_cases hmay : Stage.MayRun d before
      · obtain ⟨hran, -⟩ := (hg.ran hon).mpr hmay
        obtain ⟨r, t, q, visits, -, hrun, hexec⟩ :=
          d.runScenario_executes g.scenario g.started.1 g.started.2
        obtain ⟨-, ht, hq⟩ := Timed.Result.mk.inj (hran.symm.trans hrun)
        have htaken : Adjacent (t, q) g.ended := ⟨ht.symm, by rw [hq], by rw [hq], by rw [hq]⟩
        have hwalk : d.Walks g.started g.scenario.steps (t, q) :=
          ⟨visits, hexec.walk, hexec.started_prefix.sublist⟩
        simpa using hwalk.append (d.walks_nil htaken [])
      · exact passed (hg.halted hon hmay)

theorem walks_stages : ∀ {before trace : List (Stage σ)} {m stop : Moment σ},
    Stage.Linked m trace stop → Stage.AllOrderly d before trace →
      d.Walks m (trace.flatMap fun g => g.scenario.steps) stop
  | _, [], _, _, hlink, _ => d.walks_nil (hlink ▸ .refl _) _
  | before, g :: rest, m, stop, ⟨hstart, hlink⟩, hord => by
      have hg : Stage.Orderly d before g := by simpa using hord [] g rest rfl
      have hrest : Stage.AllOrderly d (before ++ [g]) rest := fun pre g' post h => by
        simpa using hord (g :: pre) g' post (by rw [h, List.cons_append])
      rw [List.flatMap_cons, ← hstart]
      exact (d.walks_stage hg).append (walks_stages hlink hrest)

/-- A run is a walk through steps of its plan. -/
theorem run_visits (stamp : Nat → String) (plan : Plan) (now : Nat) (p : Progress σ) :
    ∃ report stop, (d.run stamp plan).result now p = ⟨some report, stop.1, stop.2⟩
      ∧ d.Walks (adopted plan now p) (plan.scenarios.flatMap Scenario.steps) stop := by
  obtain ⟨report, trace, stop, hrun, hmap, -, hlink, hord, -, -⟩ := d.result_run stamp plan now p
  refine ⟨report, stop, hrun, ?_⟩
  rw [← hmap, List.flatMap_map]
  exact d.walks_stages hlink hord

end Deployment

end Rollout
