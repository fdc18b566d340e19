import Rollout.Plan.Basic

/-!
# Choosing scenarios

Which scenarios of a plan are run. Scenarios are chosen by name, in passes over a plan that is
changed in place, and a name that is not in the plan is an error. A pass that fails leaves what the
passes before it have changed; `only` looks all names up before it changes anything. Nothing but
the flags of scenarios changes.
-/

namespace Rollout

/-- Names of scenarios to run alone, to switch on and to switch off. -/
structure Selection where
  only : List String
  enable : List String
  disable : List String

namespace Plan

/-- A change of a plan in place. There is a plan after it also if it fails. -/
abbrev Change (α : Type) := ExceptT ConfigFault (StateM Plan) α

/-- Sets the flag of the first scenario that has the name. -/
def setFlag (name : String) (enabled : Bool) : List Scenario → List Scenario
  | [] => []
  | s :: rest =>
    if s.name = name then { s with enabled } :: rest else s :: setFlag name enabled rest

namespace Change

/-- Fails if no scenario has the name. -/
def known (name : String) : Change Unit := do
  if ((← get).get? name).isNone then throw (.unknownScenario name)

/-- Switches a scenario on or off. -/
def setEnabled (enabled : Bool) (name : String) : Change Unit := do
  known name
  modify fun p => { p with scenarios := setFlag name enabled p.scenarios }

/-- Switches the named scenarios on and all others off. -/
def only (names : List String) : Change Unit := do
  names.forM known
  modify fun p =>
    { p with scenarios := p.scenarios.map fun s => { s with enabled := names.contains s.name } }

/-- Applies a selection: first what is to run alone, if anything, then what is switched on, then
what is switched off. -/
def select (s : Selection) : Change Unit := do
  unless s.only.isEmpty do only s.only
  s.enable.forM (setEnabled true)
  s.disable.forM (setEnabled false)

end Change

/-- The plan that a change makes of another one, if it does not fail. -/
def changed (p : Plan) (change : Change Unit) : Except ConfigFault Plan :=
  match change.run p with
  | (.ok _, q) => .ok q
  | (.error fault, _) => .error fault

/-- Switches a scenario on or off. -/
def setEnabled (p : Plan) (name : String) (enabled : Bool) : Except ConfigFault Plan :=
  p.changed (.setEnabled enabled name)

/-- Switches the named scenarios on and all others off. -/
def only (p : Plan) (names : List String) : Except ConfigFault Plan := p.changed (.only names)

/-- Applies a selection. -/
def select (p : Plan) (s : Selection) : Except ConfigFault Plan := p.changed (.select s)

end Plan

end Rollout
