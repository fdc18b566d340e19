import Rollout.Json.Printer
import Rollout.Registry

/-!
# Reports

What a run leaves behind: for each scenario how it ended, with the first failure and a report for
each of its operations; counts over all scenarios; and the registry. A report is written as a
structured value and can be read back.
-/

namespace Rollout

/-- How an operation ended. -/
inductive StepStatus where
  | success
  | failed
deriving DecidableEq, Repr

namespace StepStatus

def text : StepStatus → String
  | success => "Success"
  | failed => "Failed"

def decode : Decode StepStatus := Decode.word [("Success", success), ("Failed", failed)]

end StepStatus

/-- A time in milliseconds as a report gives it: one that is too long is the longest that fits. -/
def reportedMs (elapsed : Nat) : UInt64 := UInt64.ofNat (min elapsed (UInt64.size - 1))

/-- The report of one operation. -/
structure StepReport where
  operation : Operation
  role : Option String
  status : StepStatus
  durationMs : UInt64
  error : Option String
  errorKind : Option FailureKind
deriving DecidableEq

namespace StepReport

/-- The report of an operation that ended with a result. -/
def ofResult (operation : Operation) (role : Option String) (durationMs : UInt64) :
    Except Failure α → StepReport
  | .ok _ => ⟨operation, role, .success, durationMs, none, none⟩
  | .error f => ⟨operation, role, .failed, durationMs, some f.detail, some f.kind⟩

def encodeKind (k : Option FailureKind) : Json := Json.ofOption (fun k => .str k.code) k

def encode (r : StepReport) : Json :=
  .obj
    [("operation", .str r.operation.text), ("role", Json.ofOption .str r.role),
      ("status", .str r.status.text), ("duration_ms", .int r.durationMs.toNat),
      ("error", Json.ofOption .str r.error), ("error_kind", encodeKind r.errorKind)]

def shape : Shape StepReport :=
  ((((((Shape.of StepReport.mk).field "operation" Operation.decode).nullable "role"
    Decode.text).field "status" StepStatus.decode).field "duration_ms" Decode.uint64).nullable
    "error" Decode.text).nullable "error_kind" FailureKind.decode

end StepReport

/-- How a scenario ended. -/
inductive Ending where
  | success
  | failed
  | timedOut
  | skipped
deriving DecidableEq, Repr

namespace Ending

def text : Ending → String
  | success => "Success"
  | failed => "Failed"
  | timedOut => "TimedOut"
  | skipped => "Skipped"

def all : List Ending := [success, failed, timedOut, skipped]

def decode : Decode Ending := Decode.word (all.map fun e => (e.text, e))

end Ending

/-- The report of one scenario. -/
structure ScenarioReport where
  name : String
  outcome : Ending
  durationMs : UInt64
  error : Option String
  errorKind : Option FailureKind
  steps : List StepReport
deriving DecidableEq

namespace ScenarioReport

/-- The report of a scenario that was not run. -/
def skipped (name reason : String) : ScenarioReport := ⟨name, .skipped, 0, some reason, none, []⟩

def encode (r : ScenarioReport) : Json :=
  .obj
    [("name", .str r.name), ("outcome", .str r.outcome.text),
      ("duration_ms", .int r.durationMs.toNat), ("error", Json.ofOption .str r.error),
      ("error_kind", StepReport.encodeKind r.errorKind),
      ("steps", Json.ofList StepReport.encode r.steps)]

def shape : Shape ScenarioReport :=
  ((((((Shape.of ScenarioReport.mk).field "name" Decode.text).field "outcome"
    Ending.decode).field "duration_ms" Decode.uint64).nullable "error" Decode.text).nullable
    "error_kind" FailureKind.decode).field "steps" (Decode.list StepReport.shape.decode)

/-- Whether a scenario was run and did not succeed. -/
def unsuccessful (r : ScenarioReport) : Bool := r.outcome = .failed || r.outcome = .timedOut

end ScenarioReport

/-- Counts over the scenarios of a run; the pass rate is the percentage of those run that
succeeded. -/
structure RunSummary where
  total : UInt64
  succeeded : UInt64
  failed : UInt64
  timedOut : UInt64
  skipped : UInt64
  passRate : Float

namespace RunSummary

/-- The percentage of the scenarios that were run; zero if none was. -/
def rate (succeeded executed : Nat) : Float :=
  if executed = 0 then 0.0 else Float.ofNat succeeded / Float.ofNat executed * 100.0

def ofReports (reports : List ScenarioReport) : RunSummary :=
  let count (e : Ending) : Nat := reports.countP fun r => r.outcome = e
  { total := UInt64.ofNat reports.length
    succeeded := UInt64.ofNat (count .success)
    failed := UInt64.ofNat (count .failed)
    timedOut := UInt64.ofNat (count .timedOut)
    skipped := UInt64.ofNat (count .skipped)
    passRate := rate (count .success) (count .success + count .failed + count .timedOut) }

def encode (s : RunSummary) : Json :=
  .obj
    [("total", .int s.total.toNat), ("succeeded", .int s.succeeded.toNat),
      ("failed", .int s.failed.toNat), ("timed_out", .int s.timedOut.toNat),
      ("skipped", .int s.skipped.toNat), ("pass_rate", .real s.passRate)]

def shape : Shape RunSummary :=
  ((((((Shape.of RunSummary.mk).field "total" Decode.uint64).field "succeeded"
    Decode.uint64).field "failed" Decode.uint64).field "timed_out" Decode.uint64).field "skipped"
    Decode.uint64).field "pass_rate" Decode.double

end RunSummary

/-- The report of a run. -/
structure RunReport where
  startedAt : String
  finishedAt : String
  scenarios : List ScenarioReport
  summary : RunSummary
  registry : Registry

namespace RunReport

/-- Whether no scenario that was run failed or timed out, by the counts. -/
def isSuccess (r : RunReport) : Bool := r.summary.failed == 0 && r.summary.timedOut == 0

/-- The first kind of failure that an unsuccessful scenario has. -/
def firstFailureKind (r : RunReport) : Option FailureKind :=
  (r.scenarios.filter ScenarioReport.unsuccessful).findSome? ScenarioReport.errorKind

/-- What a run ends with. One that is no success fails with its first kind of failure and counts
the scenarios that did not succeed. -/
def verdict (r : RunReport) : Fallible Unit :=
  if r.isSuccess then .ok ()
  else
    .error (.runFailed (r.firstFailureKind.getD .configError)
      (r.summary.failed.toNat + r.summary.timedOut.toNat) r.summary.total.toNat)

/-- The first report of a scenario with the name. -/
def get? (r : RunReport) (name : String) : Option ScenarioReport :=
  r.scenarios.find? fun s => s.name = name

def encode (r : RunReport) : Json :=
  .obj
    [("started_at", .str r.startedAt), ("finished_at", .str r.finishedAt),
      ("scenarios", Json.ofList ScenarioReport.encode r.scenarios),
      ("summary", r.summary.encode), ("registry", r.registry.encode)]

def shape : Shape RunReport :=
  (((((Shape.of RunReport.mk).field "started_at" Decode.text).field "finished_at"
    Decode.text).field "scenarios" (Decode.list ScenarioReport.shape.decode)).field "summary"
    RunSummary.shape.decode).field "registry" Registry.decode

/-- The text of a report file. -/
def fileText (r : RunReport) : String := r.encode.indented

end RunReport

end Rollout
