import Rollout.Cli.Arguments
import Rollout.Plan.Selection
import Rollout.Text.Quoted

/-!
# Commands

What a command line can ask for. Options that all commands know may stand before the command and
after it; the one after it counts.
-/

namespace Rollout.Cli

/-- The names of commands. -/
inductive Verb where
  | address
  | generate
  | faucet
  | balance
  | send
  | deploy
  | exec
  | query
  | run
  | status
deriving DecidableEq

namespace Verb

def text : Verb → String
  | address => "address"
  | generate => "generate"
  | faucet => "faucet"
  | balance => "balance"
  | send => "send"
  | deploy => "deploy"
  | exec => "exec"
  | query => "query"
  | run => "run"
  | status => "status"

def all : List Verb :=
  [address, generate, faucet, balance, send, deploy, exec, query, run, status]

def ofText? (s : String) : Option Verb := all.find? fun v => v.text = s

/-- The options of a command. -/
def options : Verb → List OptionSpec
  | address => [⟨"public-key", none, .switch⟩]
  | generate => [⟨"prefix", none, .text⟩]
  | faucet | balance => [⟨"address", some 'a', .text⟩, ⟨"denom", some 'd', .text⟩]
  | send => [⟨"to", some 't', .text⟩, ⟨"amount", some 'a', .text⟩]
  | deploy =>
    [⟨"artifact", none, .path⟩, ⟨"init", none, .text⟩, ⟨"label", none, .text⟩,
      ⟨"role", none, .text⟩, ⟨"funds", none, .text⟩]
  | exec => [⟨"contract", none, .text⟩, ⟨"msg", none, .text⟩, ⟨"funds", none, .text⟩]
  | query => [⟨"contract", none, .text⟩, ⟨"msg", none, .text⟩]
  | run =>
    [⟨"plan", none, .path⟩, ⟨"only", none, .texts⟩, ⟨"enable", none, .texts⟩,
      ⟨"disable", none, .texts⟩, ⟨"continue-on-failure", none, .switch⟩,
      ⟨"report", none, .path⟩]
  | status => []

end Verb

/-- A command with its options. -/
inductive Command where
  | address (publicKey : Bool)
  | generate (accountPrefix : Option String)
  | faucet (address denom : Option String)
  | balance (address denom : Option String)
  | send (recipient amount : String)
  | deploy (artifact init : String) (label : Option String) (role : String) (funds : Option String)
  | exec (contract msg : String) (funds : Option String)
  | query (contract msg : String)
  | run (plan : String) (selection : Selection) (continueOnFailure : Bool)
      (report : Option String)
  | status

/-- The role of a contract that is not part of a plan. -/
def defaultRole : String := "contract"

/-- The command of a name, from its options. -/
def Verb.command (v : Verb) (f : Found) : Except UsageFault Command := do
  match v with
  | .address => return .address (f.has "public-key")
  | .generate => return .generate (f.value? "prefix")
  | .faucet => return .faucet (f.value? "address") (f.value? "denom")
  | .balance => return .balance (f.value? "address") (f.value? "denom")
  | .send => return .send (← f.require "to") (← f.require "amount")
  | .deploy =>
    return .deploy (← f.require "artifact") (← f.require "init") (f.value? "label")
      ((f.value? "role").getD defaultRole) (f.value? "funds")
  | .exec => return .exec (← f.require "contract") (← f.require "msg") (f.value? "funds")
  | .query => return .query (← f.require "contract") (← f.require "msg")
  | .run =>
    let selection : Selection := ⟨f.values "only", f.values "enable", f.values "disable"⟩
    return .run (← f.require "plan") selection (f.has "continue-on-failure") (f.value? "report")
  | .status => return .status

/-! ## Command lines -/

/-- What a command line says. -/
structure Invocation where
  config : Option String
  network : Option String
  verbose : Bool
  command : Command

namespace Invocation

/-- The options that all commands know. -/
def commonOptions : List OptionSpec :=
  [⟨"config", some 'c', .path⟩, ⟨"network", some 'n', .text⟩, ⟨"verbose", some 'v', .switch⟩,
    ⟨"help", some 'h', .help⟩]

/-- What may stand before the command. -/
def topLevel : Level :=
  ⟨commonOptions ++ [⟨"version", some 'V', .version⟩], Verb.all.map Verb.text ++ ["help"]⟩

/-- What may stand after a command. -/
def levelOf (v : Verb) : Level := ⟨commonOptions ++ v.options, []⟩

/-- What becomes of a request for help on the named commands. -/
def helpOn : List String → UsageFault
  | [] => .help
  | [name] => if topLevel.commands.contains name then .help else .unknownCommand
  | _ => .unknownCommand

/-- Reads a command line. -/
def parse (args : List String) : Except UsageFault Invocation := do
  let (before, next) ← topLevel.scan .start args
  match next with
  | none =>
    let found ← before.settle
    .error (if found.isEmpty then .nothing else .noCommand)
  | some (name, rest) =>
    match Verb.ofText? name with
    | none => .error (helpOn rest)
    | some verb =>
      let (after, _) ← (levelOf verb).scan .start rest
      let own ← after.settle
      let command ← verb.command own
      let common ← before.settle
      let pick (option : String) : Option String := own.value? option <|> common.value? option
      return ⟨pick "config", pick "network", own.has "verbose" || common.has "verbose", command⟩

end Invocation

/-! ## Commands as they are shown -/

def optionText (text : α → String) : Option α → String
  | none => "None"
  | some a => "Some(" ++ text a ++ ")"

def listText (text : α → String) (xs : List α) : String :=
  "[" ++ ", ".intercalate (xs.map text) ++ "]"

def boolText (b : Bool) : String := if b then "true" else "false"

/-- A command and the record of its options. -/
def recordText (name : String) (fields : List (String × String)) : String :=
  let inner := ", ".intercalate (fields.map fun f => f.1 ++ ": " ++ f.2)
  name ++ "(" ++ name ++ "Command \x7b " ++ inner ++ " \x7d)"

/-- A command for the log of a program. -/
def Command.describe : Command → String
  | .address publicKey => recordText "Address" [("public_key", boolText publicKey)]
  | .generate accountPrefix =>
    recordText "Generate" [("prefix", optionText Text.quoted accountPrefix)]
  | .faucet account denom =>
    recordText "Faucet"
      [("address", optionText Text.quoted account), ("denom", optionText Text.quoted denom)]
  | .balance account denom =>
    recordText "Balance"
      [("address", optionText Text.quoted account), ("denom", optionText Text.quoted denom)]
  | .send recipient amount =>
    recordText "Send" [("to", Text.quoted recipient), ("amount", Text.quoted amount)]
  | .deploy artifact init label role funds =>
    recordText "Deploy"
      [("artifact", Text.quoted artifact), ("init", Text.quoted init),
        ("label", optionText Text.quoted label), ("role", Text.quoted role),
        ("funds", optionText Text.quoted funds)]
  | .exec contract msg funds =>
    recordText "Exec"
      [("contract", Text.quoted contract), ("msg", Text.quoted msg),
        ("funds", optionText Text.quoted funds)]
  | .query contract msg =>
    recordText "Query" [("contract", Text.quoted contract), ("msg", Text.quoted msg)]
  | .run plan selection continueOnFailure report =>
    recordText "Run"
      [("plan", Text.quoted plan), ("only", listText Text.quoted selection.only),
        ("enable", listText Text.quoted selection.enable),
        ("disable", listText Text.quoted selection.disable),
        ("continue_on_failure", boolText continueOnFailure),
        ("report", optionText Text.quoted report)]
  | .status => "Status"

end Rollout.Cli
