import Rollout.Cli.Session
import Rollout.Settings.VariableFile

/-!
# The program

A program run reads the variables, its arguments and the settings, and carries one command out. It
ends with an exit code: zero after a success, and otherwise the code of the kind of failure, which is
also told in a line for people.
-/

namespace Rollout.Cli

/-- How a program run ended. -/
inductive Conclusion where
  | success
  | usage (fault : UsageFault)
  | failure (f : Failure)

namespace Conclusion

def exitCode : Conclusion → Nat
  | success => 0
  | usage fault => fault.exitCode
  | failure f => f.kind.exitCode

/-- The line that tells of a failure. -/
def errorLine? : Conclusion → Option String
  | failure f => some ("error[" ++ f.kind.code ++ "]: " ++ f.message)
  | _ => none

end Conclusion

/-- Reads the arguments and carries the command out. -/
def runCommand (scene : Scene σ) (around : Surroundings) (world : σ) (args : List String) :
    Conclusion × Console σ :=
  let start : Console σ := ⟨world, around.files, []⟩
  match Invocation.parse args with
  | .error fault => (.usage fault, start)
  | .ok i =>
    match (perform scene around i).run.run start with
    | ⟨some (.ok _), _, c⟩ => (.success, c)
    | ⟨some (.error f), _, c⟩ => (.failure f, c)
    | ⟨none, _, c⟩ => (.failure (.connection "no answer"), c)

/-- The file of variables that a program reads. -/
def variableFile : String := ".env"

/-- Adds the variables of the file. -/
def withVariables (around : Surroundings) : Surroundings :=
  match around.files.read variableFile with
  | .ok bytes => { around with environment := VariableFile.load around.environment bytes }
  | .error _ => around

/-- A program run: variables may also come from a file. -/
def run (scene : Scene σ) (around : Surroundings) (world : σ) (args : List String) :
    Conclusion × Console σ :=
  runCommand scene (withVariables around) world args

/-! ## Help -/

def programName : String := "rollout"

def programVersion : String := "0.1.0"

/-- An option as it is shown in a usage text. -/
def OptionSpec.usage (o : OptionSpec) : String :=
  let short := (o.short.map fun c => "-" ++ String.singleton c ++ ", ").getD ""
  "[" ++ short ++ "--" ++ o.long ++ (if o.takesValue then " VALUE]" else "]")

/-- How the program is used, line by line. -/
def usageLines : List String :=
  let options (os : List OptionSpec) : String :=
    String.join (os.map fun o => " " ++ o.usage)
  ("Usage: " ++ programName ++ options Invocation.topLevel.options ++ " COMMAND") :: ""
    :: Verb.all.map fun v => "  " ++ v.text ++ options v.options

/-- What is said about a command line that is no invocation. -/
def UsageFault.message : UsageFault → String
  | .nothing | .noCommand => "a command is missing"
  | .unknownCommand => "there is no such command"
  | .unknownArgument => "an argument is not expected"
  | .missingArgument => "an option that is needed is missing"
  | .missingValue => "an option has no value"
  | .unneededValue => "a switch takes no value"
  | .repeated => "an option is given more than once"
  | .help => "help"
  | .version => "version"

end Rollout.Cli
