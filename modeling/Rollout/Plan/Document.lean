import Rollout.Plan.Basic
import Rollout.Toml.Parser

/-!
# Plan documents

A plan is written as a document with a table of contracts and a list of scenarios. A scenario that is
listed field by field may have more items than fields; what is left over is ignored. Reading a plan
also checks that it is valid.
-/

namespace Rollout.Plan

/-- Reads a plan from the text of a document. -/
def ofText (s : String) : Except ConfigFault Plan :=
  match Toml.parse? .v10 s with
  | none => .error .planSyntax
  | some document => do
    let p ← ((shapeWith Scenario.shape.decodeLong).decode document.toJson).mapError .planShape
    p.validate
    return p

/-- Reads a plan from a file. -/
def load (files : Files) (path : String) : Except ConfigFault Plan :=
  match files.readText path with
  | .ok s => ofText s
  | .error fault => .error (.planFile path fault)

end Rollout.Plan
