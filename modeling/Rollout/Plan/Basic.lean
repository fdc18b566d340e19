import Rollout.Plan.Step
import Rollout.Failure

/-!
# Plans

A plan lists scenarios, each a named list of steps, and addresses of contracts that are there
already. A plan is valid if every scenario has a name that is not blank, no two have the same name,
and no timeout is zero.
-/

namespace Rollout

/-- A named list of steps. -/
structure Scenario where
  name : String
  description : Option String
  enabled : Bool
  timeoutSecs : Option UInt64
  steps : List Step

namespace Scenario

/-- A scenario that is enabled and has no timeout of its own. -/
def make (name : String) (steps : List Step) : Scenario := ⟨name, none, true, none, steps⟩

/-- Gives a scenario a timeout in whole seconds, at least one. -/
def withTimeout (s : Scenario) (ms : Nat) : Scenario :=
  { s with timeoutSecs := some (UInt64.ofNat (max (ms / 1000) 1)) }

def disabled (s : Scenario) : Scenario := { s with enabled := false }

/-- The time that a scenario may take, in milliseconds. -/
def timeoutMs (s : Scenario) (default : Nat) : Nat :=
  match s.timeoutSecs with
  | some secs => secs.toNat * 1000
  | none => default

def encode (s : Scenario) : Json :=
  .obj
    [("name", .str s.name), ("description", Json.ofOption .str s.description),
      ("enabled", .bool s.enabled),
      ("timeout_secs", Json.ofOption (fun n => .int n.toNat) s.timeoutSecs),
      ("steps", Json.ofList Step.encode s.steps)]

def shape : Shape Scenario :=
  (((((Shape.of Scenario.mk).field "name" Decode.text).optional "description" Decode.text).fieldD
    "enabled" Decode.bool true).optional "timeout_secs" Decode.uint64).fieldD "steps"
    (Decode.list Step.decode) []

end Scenario

/-- Scenarios in the order in which they are run, and contracts that they may use. -/
structure Plan where
  contracts : SortedMap String
  scenarios : List Scenario

namespace Plan

def encode (p : Plan) : Json :=
  .obj
    [("contracts", .obj (p.contracts.entries.map fun e => (e.1, .str e.2))),
      ("scenarios", Json.ofList Scenario.encode p.scenarios)]

/-- Reads addresses by role. -/
def contractsDecode : Decode (SortedMap String)
  | .obj fields => do
    let entries ← fields.mapM fun f => return (f.1, ← Decode.text f.2)
    return SortedMap.ofList entries
  | _ => .error .mismatch

/-- The fields of a plan whose scenarios are read as given. -/
def shapeWith (scenario : Decode Scenario) : Shape Plan :=
  ((Shape.of Plan.mk).fieldD "contracts" contractsDecode .empty).fieldD "scenarios"
    (Decode.list scenario) []

def shape : Shape Plan := shapeWith Scenario.shape.decode

/-- Checks scenarios in order; the names of those before them are given. -/
def check (seen : List String) : List Scenario → Except ConfigFault Unit
  | [] => .ok ()
  | s :: rest =>
    if Text.allBlank s.name then .error .blankScenario
    else if s.name ∈ seen then .error (.duplicateScenario s.name)
    else if s.timeoutSecs = some 0 then .error (.zeroTimeout s.name)
    else check (s.name :: seen) rest

/-- Checks that a plan is valid. -/
def validate (p : Plan) : Except ConfigFault Unit := check [] p.scenarios

/-- The paths of the artifacts that a plan uploads. -/
def artifacts (p : Plan) : List String :=
  (p.scenarios.flatMap Scenario.steps).filterMap fun s =>
    match s with
    | .upload _ artifact => some artifact
    | _ => none

/-- The first scenario of a name. -/
def get? (p : Plan) (name : String) : Option Scenario := p.scenarios.find? fun s => s.name = name

end Plan

end Rollout
