import Mathlib.Data.List.Forall2
import Rollout.Proofs.Deployment.Calling
import Rollout.Proofs.Run.Visits

/-!
# The step log

The reports of a scenario are a log of its operations. An operation leaves its report at the end,
at the instant at which its call ends, so a step that is cut off has left none. A step that ends
has left exactly one, on its own result, except in one case: the steps that work through a
manager look up what they tell the manager before they begin their operation, and if that is
not known, the step fails with nothing in the log (`Step.preparation`).

`Step.Leaves` says which reports a step leaves, and `runScenario_step_log` that the log of a
scenario is what its steps leave, one after the other.
-/

namespace Rollout

/-! ## The report of a step -/

namespace Step

/-- The role of the contract that the operation of a step is about. -/
def role : Step → Option String
  | upload role _ | instantiate role .. | execute role .. | query role .. => some role
  | instantiateSwap manager .. | instantiateToken manager .. | swapTokens manager ..
  | redeemTokens manager .. => some manager
  | balance .. | send .. => none

/-- What a step looks up before it begins its operation. -/
def preparation (g : Registry) : Step → Fallible Unit
  | instantiateSwap _ role .. | instantiateToken _ role .. => (g.codeId role).map fun _ => ()
  | swapTokens _ (some role) .. => (g.address role).map fun _ => ()
  | _ => .ok ()

/-- The report on a step that has ended. A response that is not the expected one fails a step whose
operation has succeeded. -/
inductive Reports (s : Step) : Fallible Unit → StepReport → Prop
  | succeeded (ms : UInt64) :
      Reports s (.ok ()) ⟨s.operation, s.role, .success, ms, none, none⟩
  | failed (f : Failure) (ms : UInt64) :
      Reports s (.error f) ⟨s.operation, s.role, .failed, ms, some f.detail, some f.kind⟩
  | unexpected (text : String) (ms : UInt64) :
      Reports s (.error (.expectation text)) ⟨s.operation, s.role, .success, ms, none, none⟩

/-- The reports that a step leaves which is started with a registry and ends with a result, or is
cut off. -/
inductive Leaves (g : Registry) (s : Step) : Option (Fallible Unit) → List StepReport → Prop
  | cutOff : Leaves g s none []
  | unprepared {f : Failure} (h : s.preparation g = .error f) : Leaves g s (some (.error f)) []
  | reported {r : Fallible Unit} {report : StepReport} (h : s.preparation g = .ok ())
      (hreport : s.Reports r report) : Leaves g s (some r) [report]

theorem preparation_learn_announced (g : Registry) (s : Step) :
    s.preparation (g.learn s.announced) = s.preparation g := by
  cases s <;> rfl

end Step

/-! ## Moves with a report -/

/-- A result that can only be a failure because an answer is not the expected one. -/
def Expects (value : α → Fallible β) : Prop :=
  ∀ a f, value a = .error f → ∃ text, f = .expectation text

theorem expects_ok (value : α → β) : Expects fun a => (.ok (value a) : Fallible β) := by
  intro a f h
  cases h

theorem Expects.bind {value : α → Fallible β} {next : β → Fallible γ} (h : Expects value)
    (hnext : Expects next) : Expects fun a => value a >>= next := by
  intro a f hf
  change value a >>= next = .error f at hf
  cases ha : value a with
  | ok b =>
      rw [ha] at hf
      exact hnext b f hf
  | error f' =>
      rw [ha] at hf
      cases hf
      exact h a f ha

theorem expects_meets (role : String) (expect : Option Json) :
    Expects fun response => Deployment.meets role response expect := by
  intro response f h
  change Deployment.meets role response expect = .error f at h
  cases expect with
  | none => cases h
  | some expected =>
      rw [Deployment.meets] at h
      split at h
      · cases h
      · cases h
        exact ⟨_, rfl⟩

namespace Move

/-- A move leaves one report, on an operation for a role, and can fail without a failed report only
because the answer is not the expected one. -/
def Reports (operation : Operation) (role : Option String) : Move α → Prop
  | .fails report _ => report = some (operation, role)
  | .calls c role' _ _ value => c.operation = operation ∧ role' = role ∧ Expects value

variable {operation : Operation} {role : Option String}

theorem reports_plain {c : Call} (h : c.operation = operation) (found : c.Answer → List Finding) :
    (plain c role found).Reports operation role := ⟨h, rfl, expects_ok fun a => a⟩

theorem reports_needs {need : Fallible β} {next : β → Move α}
    (hnext : ∀ b, (next b).Reports operation role) :
    (needs (some (operation, role)) need next).Reports operation role := by
  cases need with
  | ok b => exact hnext b
  | error f => exact rfl

theorem reports_needs_first {need : Fallible β} {next : β → Move α}
    (hnext : ∀ b, (next b).Reports operation role) (h : need.map (fun _ => ()) = .ok ()) :
    (needs none need next).Reports operation role := by
  cases need with
  | ok b => exact hnext b
  | error f => cases h

theorem needs_unprepared {need : Fallible β} (next : β → Move α) {f : Failure}
    (h : need.map (fun _ => ()) = .error f) : needs none need next = .fails none f := by
  cases need with
  | ok b => cases h
  | error f' =>
      cases h
      rfl

theorem Reports.followed {m : Move α} (hm : m.Reports operation role) {found : α → List Finding}
    {notes : α → List String} {value : α → Fallible β} (hvalue : Expects value) :
    (m.followed found notes value).Reports operation role := by
  cases m with
  | fails report f => exact hm
  | calls c role' found' notes' value' => exact ⟨hm.1, hm.2.1, hm.2.2.bind hvalue⟩

theorem Reports.reads {m : Move α} (hm : m.Reports operation role) {value : α → Fallible β}
    (hvalue : Expects value) : (m.reads value).Reports operation role := hm.followed hvalue

theorem Reports.committing {m : Move TxOutcome} (hm : m.Reports operation role) (s : Step) :
    (m.committing s).Reports operation role := hm.followed (expects_ok _)

variable (d : Deployment σ) (g : Registry)

theorem reports_uploadArtifact (role path : String) :
    (uploadArtifact d role path).Reports .upload (some role) :=
  reports_needs fun _ => reports_plain rfl _

theorem reports_instantiate (role : String) (msg : Json) (label : Option String)
    (funds : List Coin) : (instantiate d g role msg label funds).Reports .instantiate (some role) :=
  reports_needs fun _ => reports_plain rfl _

theorem reports_execute (role : String) (msg : Json) (funds : List Coin) :
    (execute d g role msg funds).Reports .execute (some role) :=
  reports_needs fun _ => reports_plain rfl _

theorem reports_query (role : String) (msg : Json) :
    (query g role msg).Reports .query (some role) :=
  reports_needs fun _ => reports_plain rfl _

theorem reports_instantiateThrough (manager role : String) (funds : List Coin)
    (message : UInt64 → ManagerCall) (h : (g.codeId role).map (fun _ => ()) = .ok ()) :
    (instantiateThrough d g manager role funds message).Reports .execute (some manager) :=
  reports_needs_first (fun _ => (reports_execute d g manager _ funds).followed (expects_ok _)) h

/-- A step that is prepared leaves one report, on its operation. -/
theorem reports_ofStep {s : Step} (h : s.preparation g = .ok ()) :
    (ofStep d g s).Reports s.operation s.role := by
  cases s with
  | upload role artifact => exact (reports_uploadArtifact d role artifact).reads (expects_ok _)
  | instantiate role msg label codeId funds =>
      exact (reports_instantiate d g role msg label funds).reads (expects_ok _)
  | execute role msg funds => exact (reports_execute d g role msg funds).committing _
  | query role msg expect => exact (reports_query g role msg).reads (expects_meets role expect)
  | balance address denom => exact (reports_plain rfl _).reads (expects_ok _)
  | send recipient amount => exact (reports_plain rfl fun _ => []).committing _
  | instantiateSwap manager role debug funds =>
      exact (reports_instantiateThrough d g manager role funds _ h).committing _
  | instantiateToken manager role etfName etfSymbol =>
      exact (reports_instantiateThrough d g manager role [] _ h).committing _
  | swapTokens manager swap initialBalance etf funds =>
      refine Reports.committing ?_ _
      cases swap with
      | none => exact reports_execute d g manager _ funds
      | some role =>
          rw [swapTokens.eq_def, needs_map]
          exact reports_needs_first (fun _ => reports_execute d g manager _ funds) h
  | redeemTokens manager etfName funds =>
      exact (reports_execute d g manager _ funds).committing _

/-- A step that is not prepared fails without a report. -/
theorem ofStep_unprepared {s : Step} {f : Failure} (h : s.preparation g = .error f) :
    ofStep d g s = .fails none f := by
  cases s with
  | instantiateSwap manager role debug funds =>
      rw [ofStep, instantiateThrough, needs_unprepared _ h]
      rfl
  | instantiateToken manager role etfName etfSymbol =>
      rw [ofStep, instantiateThrough, needs_unprepared _ h]
      rfl
  | swapTokens manager swap initialBalance etf funds =>
      cases swap with
      | none => cases h
      | some role =>
          rw [ofStep, swapTokens.eq_def, needs_map, needs_unprepared _ h]
          rfl
  | _ => cases h

end Move

/-! ## When reports are left -/

namespace Deployment

variable (d : Deployment σ)

theorem reports_act {s : Step} {m : Move Unit} (hm : m.Reports s.operation s.role) (now : Nat)
    (p : Progress σ) :
    (m.act d now p).Meets (fun q => q.steps = p.steps) fun r q =>
      ∃ report, s.Reports r report ∧ q.steps = p.steps ++ [report] := by
  cases m with
  | fails report f =>
      obtain rfl : report = some (s.operation, s.role) := hm
      exact ⟨_, .failed f 0, rfl⟩
  | calls c role found notes value =>
      obtain ⟨hoperation, rfl, hvalue⟩ := hm
      have hwaits : ∀ q : Progress σ, p.Only (fun _ => True) q → q.steps = p.steps := by
        rintro q ⟨w, rfl, -⟩
        rfl
      -- the report is left at the instant at which the call ends, so no cut comes between them
      refine ((d.call_only c now p).weaken hwaits fun _ _ h => h).andThen fun r t q hq => ?_
      obtain ⟨w, rfl, -⟩ := hq
      refine ⟨_, ?_, rfl⟩
      rw [hoperation]
      cases r with
      | error f => exact .failed f _
      | ok a =>
          change s.Reports (value a) _
          cases ha : value a with
          | ok _ => exact .succeeded _
          | error f =>
              obtain ⟨text, rfl⟩ := hvalue a f ha
              exact .unexpected text _

/-- A step leaves its report, if it leaves one, when it ends. -/
theorem runStep_leaves (s : Step) (now : Nat) (p : Progress σ) :
    (d.runStep s now p).Meets (fun q => q.steps = p.steps) fun r q =>
      ∃ reports, s.Leaves p.registry (some r) reports ∧ q.steps = p.steps ++ reports := by
  have hjob : d.runStep s now p = _ := d.job_eq (.step s) now p
  have hwaits : ∀ q : Progress σ, q = (Job.step s).opened p → q.steps = p.steps := by
    rintro q rfl
    rfl
  -- what a step does first leaves no report, and does not change what the step looks up
  rw [hjob]
  refine (((Job.step s).opening_meets now p).weaken hwaits fun _ _ h => h).andThen ?_
  rintro _ t q rfl
  have hlearn : s.preparation ((Job.step s).opened p).registry = s.preparation p.registry :=
    s.preparation_learn_announced p.registry
  cases hprep : s.preparation p.registry with
  | ok _ =>
      have hact := d.reports_act (Move.reports_ofStep d _ (hlearn.trans hprep)) t
        ((Job.step s).opened p)
      refine hact.weaken (fun _ h => h) ?_
      rintro r q ⟨report, hreport, hsteps⟩
      exact ⟨[report], .reported hprep hreport, hsteps⟩
  | error f =>
      rw [Job.move, Move.ofStep_unprepared d _ (hlearn.trans hprep)]
      exact ⟨[], .unprepared hprep, rfl⟩

end Deployment

/-! ## The log of a scenario -/

/-- The reports of a visit are those of its step. -/
def Visit.Leaves (v : Visit σ) (reports : List StepReport) : Prop :=
  v.step.Leaves v.started.2.registry v.result reports

/-- The log of visits: what they leave, one after the other. -/
inductive StepLog : List (Visit σ) → List StepReport → Prop
  | nil : StepLog [] []
  | cons {v : Visit σ} {visits : List (Visit σ)} {reports log : List StepReport}
      (h : v.Leaves reports) (hrest : StepLog visits log) : StepLog (v :: visits) (reports ++ log)

variable {d : Deployment σ}

theorem Visit.Ran.leaves {v : Visit σ} (h : v.Ran d) :
    ∃ reports, v.Leaves reports ∧ v.ended.2.steps = v.started.2.steps ++ reports := by
  obtain ⟨ms, hran⟩ := h
  rcases (d.runStep_leaves v.step v.started.1 v.started.2).finish_cut ms
    v.started.1 with ⟨r, t, q, hcut, reports, hleaves, hsteps⟩ | ⟨t, q, hcut, hsteps⟩
  · obtain ⟨hr, -, rfl⟩ := Timed.Result.mk.inj (hran.symm.trans hcut)
    refine ⟨reports, ?_, hsteps⟩
    rw [Visit.Leaves, Option.some.inj hr]
    exact hleaves
  · obtain ⟨hr, -, rfl⟩ := Timed.Result.mk.inj (hran.symm.trans hcut)
    refine ⟨[], ?_, by rw [hsteps, List.append_nil]⟩
    rw [Visit.Leaves, Option.some.inj hr]
    exact .cutOff

theorem Visit.Ran.step_log {v : Visit σ} (h : v.Ran d) {visits : List (Visit σ)}
    {log : List StepReport} (hrest : StepLog visits log) {stop : Moment σ}
    (hstop : stop.2.steps = v.ended.2.steps ++ log) :
    ∃ log, StepLog (v :: visits) log ∧ stop.2.steps = v.started.2.steps ++ log := by
  obtain ⟨reports, hleaves, hended⟩ := h.leaves
  exact ⟨reports ++ log, .cons hleaves hrest, by rw [hstop, hended, List.append_assoc]⟩

theorem Executes.step_log {m stop : Moment σ} {steps : List Step} {visits : List (Visit σ)}
    {r : Option (Fallible Unit)} (h : Executes d m steps visits r stop) :
    ∃ log, StepLog visits log ∧ stop.2.steps = m.2.steps ++ log := by
  induction h with
  | through m => exact ⟨[], .nil, (List.append_nil _).symm⟩
  | passed hran _ _ ih | wentOn hran _ _ _ ih =>
      obtain ⟨log, hlog, hstop⟩ := ih
      exact hran.step_log hlog hstop
  | halted _ hran _ _ | cutOff _ hran _ => exact hran.step_log .nil (List.append_nil _).symm

theorem StepLog.one_each {visits : List (Visit σ)} {log : List StepReport} (h : StepLog visits log)
    (hprep : ∀ v ∈ visits, v.result.isSome = true →
      v.step.preparation v.started.2.registry = .ok ()) :
    List.Forall₂ (fun v report => ∃ r, v.result = some r ∧ v.step.Reports r report)
      (visits.filter fun v => v.result.isSome) log := by
  induction h with
  | nil => exact .nil
  | @cons v visits reports log hleaves _ ih =>
      have hrest := ih fun v' hv' => hprep v' (List.mem_cons_of_mem _ hv')
      rw [Visit.Leaves] at hleaves
      cases hresult : v.result with
      | none =>
          -- a step that was cut off has left nothing
          rw [hresult] at hleaves
          cases hleaves
          simpa [hresult] using hrest
      | some r =>
          have hv := hprep v List.mem_cons_self (by rw [hresult]; rfl)
          rw [hresult] at hleaves
          cases hleaves with
          | unprepared h =>
              rw [hv] at h
              cases h
          | reported _ hreport =>
              rw [List.filter_cons_of_pos (by rw [hresult]; rfl)]
              exact .cons ⟨r, hresult, hreport⟩ hrest

namespace Deployment

variable (d)

/-- The log of a scenario, for every client and from any state: each step that was started has
left what a step leaves, in the order of the steps. So there is one report for each step
that has ended, if none of them failed before it began its operation. -/
theorem runScenario_step_log (s : Scenario) (now : Nat) (p : Progress σ) :
    ∃ r visits log stop, Executes d (now, p) s.steps visits r stop
      ∧ (d.runScenario s).result now p =
        ⟨some (d.reportOf s r (stop.1 - now) (p.steps ++ log)), stop.1, { stop.2 with steps := [] }⟩
      ∧ StepLog visits log
      ∧ ((∀ v ∈ visits, v.result.isSome = true →
          v.step.preparation v.started.2.registry = .ok ()) →
        List.Forall₂ (fun v report => ∃ r, v.result = some r ∧ v.step.Reports r report)
          (visits.filter fun v => v.result.isSome) log) := by
  obtain ⟨r, t, q, visits, -, hrun, hexec⟩ := d.runScenario_executes s now p
  obtain ⟨log, hlog, hsteps⟩ := hexec.step_log
  change q.steps = p.steps ++ log at hsteps
  rw [hsteps] at hrun
  exact ⟨r, visits, log, (t, q), hexec, hrun, hlog, hlog.one_each⟩

/-- The code of a swap contract is not known: the step that has it instantiated by a manager
fails, and so does its scenario, but there is nothing in the log. -/
theorem runScenario_step_log_unprepared :
    let d : Deployment Script := ⟨Script.client, "osmo1", .standard, ⟨[], []⟩⟩
    let step : Step := .instantiateSwap "manager" "swap" false []
    let p := Progress.start ⟨[], []⟩
    ((d.runStep step).result 0 p).value = some (.error (.configuration (.noCode "swap")))
      ∧ ((d.runScenario (.make "fund" [step])).result 0 p).value.map
          (fun r => (r.outcome, r.error, r.errorKind, r.steps)) =
        some (.failed, some "No code uploaded for `swap` in this run", some .configError, []) := by
  intro d step p
  exact ⟨by decide +kernel, by decide +kernel⟩

end Deployment

end Rollout
