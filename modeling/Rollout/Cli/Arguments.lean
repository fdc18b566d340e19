/-!
# Arguments

A command line is a list of arguments: options that all commands know, a command, and the options of
the command. An option has a long name and may have a short one; its value is attached or follows as
the next argument. Options that take one value, and switches, stand at most once at either place.

A value that follows its option is settled when the next option, the end, or the command after it is
reached. That decides which of two faults counts.
-/

namespace Rollout.Cli

/-- What is wrong with a command line, or what it asks for in place of a command. -/
inductive UsageFault where
  | nothing
  | noCommand
  | unknownCommand
  | unknownArgument
  | missingArgument
  | missingValue
  | unneededValue
  | repeated
  | help
  | version
deriving DecidableEq

/-- The exit code of a program that was not told what to do. -/
def UsageFault.exitCode : UsageFault → Nat
  | help | version => 0
  | _ => 2

/-- What an option takes. A path is not empty, and several texts are given by several options. -/
inductive OptionKind where
  | switch
  | text
  | path
  | texts
  | help
  | version
deriving DecidableEq

structure OptionSpec where
  long : String
  short : Option Char
  kind : OptionKind

def OptionSpec.takesValue (o : OptionSpec) : Bool :=
  match o.kind with
  | .text | .path | .texts => true
  | .switch | .help | .version => false

/-- What may stand at one place of a command line: options, and the names of commands. -/
structure Level where
  options : List OptionSpec
  commands : List String

/-- Names of options and their values, in order; a switch has an empty value. -/
abbrev Found := List (String × String)

namespace Found

def has (f : Found) (name : String) : Bool := f.any fun e => e.1 = name

def values (f : Found) (name : String) : List String :=
  (f.filter fun e => e.1 = name).map (·.2)

def value? (f : Found) (name : String) : Option String := (f.values name).head?

/-- The value of an option that has to be there. -/
def require (f : Found) (name : String) : Except UsageFault String :=
  match f.value? name with
  | some v => .ok v
  | none => .error .missingArgument

end Found

/-- How far a level has been read: what was found, and an option that is not settled yet. -/
structure Scan where
  found : Found
  pending : Option (OptionSpec × Option String)

namespace Scan

def start : Scan := ⟨[], none⟩

/-- Whether the last option still lacks its value. -/
def awaiting (s : Scan) : Bool :=
  match s.pending with
  | some (_, none) => true
  | _ => false

/-- Adds an option to those that were found. -/
def add (f : Found) (o : OptionSpec) (value : Option String) : Except UsageFault Found :=
  match o.kind, value with
  | .help, _ => .error .help
  | .version, _ => .error .version
  | .switch, _ => if f.has o.long then .error .repeated else .ok (f ++ [(o.long, "")])
  | _, none => .error .missingValue
  | .texts, some v => .ok (f ++ [(o.long, v)])
  | .text, some v => if f.has o.long then .error .repeated else .ok (f ++ [(o.long, v)])
  | .path, some v =>
    if f.has o.long then .error .repeated
    else if v = "" then .error .missingValue
    else .ok (f ++ [(o.long, v)])

/-- Settles the last option. -/
def settle (s : Scan) : Except UsageFault Found :=
  match s.pending with
  | none => .ok s.found
  | some (o, value) => add s.found o value

/-- Reads an option; a value may be attached to it. -/
def takeOption (s : Scan) (o : OptionSpec) (attached : Option String) :
    Except UsageFault Scan := do
  if o.takesValue then
    let found ← s.settle
    match attached with
    | some v => return ⟨← add found o (some v), none⟩
    | none => return ⟨found, some (o, none)⟩
  else
    match attached with
    | some _ => .error .unneededValue
    | none => return ⟨← add (← s.settle) o none, none⟩

/-- Reads what follows two dashes. -/
def takeLong (options : List OptionSpec) (s : Scan) (body : List Char) : Except UsageFault Scan :=
  let name := String.ofList (body.takeWhile (· ≠ '='))
  let attached := match body.dropWhile (· ≠ '=') with
    | '=' :: v => some (String.ofList v)
    | _ => none
  match options.find? fun o => o.long = name with
  | some o => s.takeOption o attached
  | none => .error .unknownArgument

/-- Reads what follows one dash: switches, and at the end an option with its value. -/
def takeShort (options : List OptionSpec) (s : Scan) : List Char → Except UsageFault Scan
  | [] => .ok s
  | c :: rest =>
    match options.find? fun o => o.short = some c with
    | none => .error .unknownArgument
    | some o =>
      if o.takesValue then
        match rest with
        | [] => s.takeOption o none
        | '=' :: v => s.takeOption o (some (String.ofList v))
        | v => s.takeOption o (some (String.ofList v))
      else do takeShort options (← s.takeOption o none) rest

end Scan

namespace Level

/-- What is wrong with an argument that is neither an option nor a value. -/
def stray (l : Level) : UsageFault :=
  if l.commands.isEmpty then .unknownArgument else .unknownCommand

/-- Reads arguments up to a command; gives the command and what follows it. After two dashes there
are neither options nor commands. -/
def scan (l : Level) (s : Scan) : List String → Except UsageFault (Scan × Option (String × List String))
  | [] => .ok (s, none)
  | a :: rest =>
    if !s.awaiting && l.commands.contains a then .ok (s, some (a, rest))
    else if a = "--" then
      match rest with
      | [] => .ok (s, none)
      | x :: _ => .error (if l.commands.contains x then .unknownArgument else l.stray)
    else
      match a.toList with
      | '-' :: '-' :: body => do scan l (← s.takeLong l.options body) rest
      | '-' :: c :: body => do scan l (← s.takeShort l.options (c :: body)) rest
      | _ =>
        match s.pending with
        | some (o, none) => scan l { s with pending := some (o, some a) } rest
        | _ => .error l.stray

end Level

end Rollout.Cli
