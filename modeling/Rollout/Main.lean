import Rollout.Cli.Paths
import Rollout.Text.Instant
import Std.Time.DateTime.Timestamp

/-!
# The command line

Reads what a program run finds, makes the run, and shows what came of it. There is no transport for a
node here: each request to one fails, so commands that need a node end with a connection failure.
-/

namespace Rollout.Cli

/-- The variables of the process, as the system lists them. -/
def processVariables : IO (List (String × String)) := do
  let listed ← try IO.FS.readBinFile "/proc/self/environ" catch _ => return []
  let entries := Text.pieces (· == '\x00') ((Text.ofBytes? listed.toList).getD "").toList
  return entries.map fun e =>
    (String.ofList (e.takeWhile (· ≠ '=')), String.ofList ((e.dropWhile (· ≠ '=')).drop 1))

/-- The directory for configuration: the one that is set if it is absolute, or else the usual one. -/
def configHome (environment : List (String × String)) : String :=
  let valueOf (name : String) : String := ((environment.find? fun v => v.1 = name).map (·.2)).getD ""
  let set := valueOf "XDG_CONFIG_HOME"
  if Files.isAbsolute set then set else Files.join (valueOf "HOME") ".config"

/-- Adds to a tree what is at a path. -/
def addPath (t : Files) (path : String) : IO Files := do
  if t.contains path then return t
  try
    let content ← IO.FS.readBinFile path
    return t.add path (.file content.toList)
  catch fault =>
    match fault with
    | .inappropriateType .. => return t.add path .directory
    | _ => return t

/-- Looks for the files that a command line leads to, until all are known. -/
def addPaths (args : List String) : Nat → Surroundings → IO Surroundings
  | 0, around => return around
  | n + 1, around => do
    let files ← (paths around args).foldlM addPath around.files
    addPaths args n { around with files }

/-- Writes the report of a run, if there is one. -/
def writeReport (before after : Files) (path : String) : IO Unit := do
  match before.read path, after.read path with
  | _, .error _ => return
  | .ok old, .ok new => if old ≠ new then IO.FS.writeBinFile path ⟨new.toArray⟩
  | .error _, .ok new => IO.FS.writeBinFile path ⟨new.toArray⟩

/-- The path of the report that a command line asks for. -/
def reportPath? (args : List String) : Option String :=
  match Invocation.parse args with
  | .ok ⟨_, _, _, .run _ _ _ report⟩ => report
  | _ => none

/-- Makes a program run; the result is its exit code. -/
def launch (args : List String) : IO UInt32 := do
  let environment ← processVariables
  let working := (← IO.currentDir).toString
  let around ←
    addPaths args pathRounds ⟨environment, .empty working, configHome environment⟩
  let started := (← Std.Time.Timestamp.now).toMillisecondsSinceUnixEpoch.toInt.toNat
  let chance ← IO.getRandomBytes 16
  let scene : Scene Unit :=
    ⟨Node.unreachable, chance.toList, fun ms => Text.instant (started + ms)⟩
  let (ending, console) := run scene around () args
  for line in console.lines do IO.println line
  if let some path := reportPath? args then writeReport around.files console.files path
  match ending with
  | .usage .version => IO.println (programName ++ " " ++ programVersion)
  | .usage .help => for line in usageLines do IO.println line
  | .usage fault =>
    IO.eprintln ("error: " ++ fault.message)
    for line in usageLines do IO.eprintln line
  | _ => for line in ending.errorLine?.toList do IO.eprintln line
  return UInt32.ofNat ending.exitCode

end Rollout.Cli

def main (args : List String) : IO UInt32 := Rollout.Cli.launch args
