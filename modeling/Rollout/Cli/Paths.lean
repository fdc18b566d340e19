import Rollout.Cli.Program

/-!
# Paths

The files that a command line leads to. A plan names artifacts and the settings name a directory for
them, so what is known of the files decides which others are asked for.
-/

namespace Rollout.Cli

/-- The path of the directory that a path stands in. -/
def directoryOf (path : String) : String :=
  let way := "/".intercalate (Files.names path).dropLast
  if way ≠ "" then way ++ "/" else if Files.isAbsolute path then "/" else "."

/-- The paths that a command leads to, as far as the known files tell. -/
def commandPaths (around : Surroundings) (policy : RunPolicy) : Command → List String
  | .deploy artifact .. => [artifact, Files.join policy.artifactsDir artifact]
  | .run plan _ _ report =>
    let artifacts := match Plan.load around.files plan with
      | .ok p => p.artifacts
      | .error _ => []
    plan :: (report.toList.flatMap fun r => [directoryOf r, r])
      ++ artifacts.flatMap fun a => [a, Files.join policy.artifactsDir a]
  | _ => []

/-- The paths that a command line leads to, as far as the known files tell. -/
def paths (around : Surroundings) (args : List String) : List String :=
  let around := withVariables around
  match Invocation.parse args with
  | .error _ => [variableFile]
  | .ok i =>
    let policy := match Settings.load around i.config i.network with
      | .ok s => s.driver
      | .error _ => .standard
    variableFile :: Surroundings.candidates (around.configDirectory ++ "/network")
      ++ Surroundings.candidates (i.config.getD around.defaultPath)
      ++ commandPaths around policy i.command

/-- How often files have to be looked for until all are known: the variables, the settings, the plan
and its artifacts come one after the other. -/
def pathRounds : Nat := 4

end Rollout.Cli
