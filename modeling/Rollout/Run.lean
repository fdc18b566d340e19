import Rollout.Deployment
import Rollout.Plan.Basic

/-!
# Runs

A run goes through the scenarios of a plan. A scenario runs its steps in order within its time. It
ends at its first failure, or, if the policy says to go on, after all steps with the first failure
as its own. A scenario that does not succeed halts the run unless the policy says to go on; the
scenarios after it are skipped, as are those that are switched off.
-/

namespace Rollout

namespace Deployment

/-- Notes the events of a transaction that a step has committed. -/
def noteCommitted (step : Step) (o : TxOutcome) : Act σ Unit :=
  let line := step.text ++ " committed in tx " ++ o.txHash ++ ": " ++ o.eventsValue.compact
  Timed.modify fun p => { p with notes := p.notes ++ [line] }

/-- A transaction whose events are noted. -/
def committing (step : Step) (act : Act σ (Fallible TxOutcome)) : Act σ (Fallible Unit) := do
  andThen (← act) fun o => do
    noteCommitted step o
    return .ok ()

/-- Whether a response is the one expected, if one is. -/
def meets (role : String) (response : Json) : Option Json → Fallible Unit
  | none => .ok ()
  | some expected =>
    if response.same expected then .ok ()
    else
      .error (.expectation ("query on " ++ role ++ " returned " ++ response.compact ++ " but "
        ++ expected.compact ++ " was expected"))

/-- Forgets a value. -/
def ignoring (act : Act σ (Fallible α)) : Act σ (Fallible Unit) := return (← act).map fun _ => ()

/-- Runs one step. -/
def runStep (d : Deployment σ) (step : Step) : Act σ (Fallible Unit) :=
  match step with
  | .upload role artifact => ignoring (d.uploadArtifact role artifact)
  | .instantiate role msg label codeId funds => do
    if let some codeId := codeId then adoptCode role codeId
    ignoring (d.instantiate role msg label funds)
  | .execute role msg funds => committing step (d.execute role msg funds)
  | .query role msg expect => do
    andThen (← d.query role msg) fun response => return meets role response expect
  | .balance address denom => ignoring (d.balance address denom)
  | .send recipient amount => committing step (d.send recipient amount)
  | .instantiateSwap manager swap debug funds =>
    committing step (d.instantiateSwap manager swap debug funds)
  | .instantiateToken manager token etfName etfSymbol =>
    committing step (d.instantiateToken manager token etfName etfSymbol)
  | .swapTokens manager swap initialBalance etf funds =>
    committing step (d.swapTokens manager swap initialBalance etf funds)
  | .redeemTokens manager etfName funds =>
    committing step (d.redeemTokens manager etfName funds)

/-- Runs steps in order; the first failure is the result. -/
def runSteps (d : Deployment σ) : List Step → Act σ (Fallible Unit)
  | [] => return .ok ()
  | step :: rest => do
    match ← d.runStep step with
    | .ok _ => d.runSteps rest
    | .error f =>
      if d.policy.continueOnFailure then
        let _ ← d.runSteps rest
      return .error f

/-- How a scenario ended, in terms of its report. -/
def endingOf (deadline : Nat) :
    Option (Fallible Unit) → Ending × Option String × Option FailureKind
  | some (.ok _) => (.success, none, none)
  | some (.error f) =>
    (if f.kind = .timeout then .timedOut else .failed, some f.detail, some f.kind)
  | none =>
    (.timedOut, some ("scenario timed out after " ++ toString deadline ++ "ms"), some .timeout)

/-- Runs a scenario within its time. -/
def runScenario (d : Deployment σ) (s : Scenario) : Act σ ScenarioReport := do
  let deadline := s.timeoutMs d.policy.scenarioTimeoutMs
  let started ← Timed.now
  let r ← (d.runSteps s.steps).within deadline
  let steps ← takeReports
  let ended ← Timed.now
  let (outcome, error, errorKind) := endingOf deadline r
  return ⟨s.name, outcome, reportedMs (ended - started), error, errorKind, steps⟩

/-- Runs scenarios in order; `halted` says that one before them did not succeed. -/
def runScenarios (d : Deployment σ) (halted : Bool) : List Scenario → Act σ (List ScenarioReport)
  | [] => return []
  | s :: rest => do
    if !s.enabled then
      return .skipped s.name "disabled" :: (← d.runScenarios halted rest)
    else if halted then
      return .skipped s.name "run halted after an earlier failure"
        :: (← d.runScenarios halted rest)
    else
      let report ← d.runScenario s
      let halted := report.outcome ≠ .success && !d.policy.continueOnFailure
      return report :: (← d.runScenarios halted rest)

/-- Uses the contracts that a plan names. -/
def adoptAll : List (String × String) → Act σ Unit
  | [] => return
  | (role, address) :: rest => do
    adopt role address
    adoptAll rest

/-- Runs a plan; `stamp` gives the text of an instant. -/
def run (d : Deployment σ) (stamp : Nat → String) (plan : Plan) : Act σ RunReport := do
  let started ← Timed.now
  adoptAll plan.contracts.entries
  let reports ← d.runScenarios false plan.scenarios
  let ended ← Timed.now
  return ⟨stamp started, stamp ended, reports, RunSummary.ofReports reports, ← registry⟩

end Deployment

end Rollout
