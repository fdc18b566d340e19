import Rollout.Chain.Faucet
import Rollout.Cli.Command
import Rollout.Plan.Document
import Rollout.Run
import Rollout.Settings.Source

/-!
# Sessions

A session carries one command out: it talks to a node, prints lines and may write a file. All that
can be wrong with the arguments themselves is found before the node is asked anything.
-/

namespace Rollout.Cli

/-- What a command changes: the node, the files, and the lines printed so far. -/
structure Console (σ : Type) where
  world : σ
  files : Files
  lines : List String

/-- A part of a session, which may fail. -/
abbrev Session (σ α : Type) := ExceptT Failure (Timed (Console σ)) α

/-- What a command finds: the node, sixteen bytes of chance for a new wallet, and how an instant is
written. -/
structure Scene (σ : Type) where
  node : Node σ
  chance : Bytes
  stamp : Nat → String

namespace Session

/-- An act on the console that cannot fail. -/
def act (a : Timed (Console σ) α) : Session σ α := ExceptT.lift a

def files : Session σ Files := act (return (← Timed.get).files)

/-- Prints a line. -/
def print (line : String) : Session σ Unit :=
  act (Timed.modify fun c => { c with lines := c.lines ++ [line] })

def printAll : List String → Session σ Unit
  | [] => return
  | line :: rest => do
    print line
    printAll rest

/-- Writes a file. -/
def write (path : String) (content : Bytes) : Session σ Unit := do
  match (← files).write path content with
  | .ok files => act (Timed.modify fun c => { c with files })
  | .error fault => throw (.file fault.message)

/-- Goes on with a result, or fails with it. -/
def check (r : Except ConfigFault α) : Session σ α :=
  ExceptT.mk (return r.mapError .configuration)

/-- An exchange with a node. -/
def exchange (n : Node σ) (e : Exchange α) : Session σ α :=
  ExceptT.mk ((e.hold n).zoom (·.world) fun w (c : Console σ) => { c with world := w })

/-- A part of a rollout that starts with nothing. -/
def deploying (a : Act σ α) : Session σ α :=
  act (a.zoom (fun (c : Console σ) => .start c.world) fun p c => { c with world := p.world })

/-- A part of a rollout that may fail. -/
def performing (a : Act σ (Fallible α)) : Session σ α := do
  let r ← deploying a
  r

end Session

open Session

/-! ## Preparations -/

/-- The wallet that the settings describe. -/
def loadWallet (s : Settings) : Fallible Wallet := do
  Wallet.ofPhrase (← s.requireMnemonic) s.network.accountPrefix s.accountIndex

/-- A deployment that signs with the wallet of the settings. -/
def signingDeployment (node : Node σ) (files : Files) (s : Settings) : Fallible (Deployment σ) := do
  let w ← loadWallet s
  let sender ← w.address
  let c ← Connection.make s.network (some w)
  return ⟨c.client node, sender, s.driver, files⟩

/-- A deployment for commands that only read; it signs only if there is a phrase. -/
def readingDeployment (node : Node σ) (files : Files) (s : Settings) : Fallible (Deployment σ) := do
  if s.mnemonic.isSome then signingDeployment node files s
  else
    let c ← Connection.make s.network none
    return ⟨c.client node, "", s.driver, files⟩

/-- A message that is written as a text. -/
def readMessage (s : String) : Except ConfigFault Json :=
  match Json.parse? s with
  | some v => .ok v
  | none => .error .invalidMessage

/-- A list of coins that is written as a text. -/
def readCoins (s : String) : Except ConfigFault (List Coin) :=
  (Coin.parseList s).mapError .coin

/-- The denomination that fees are paid in. -/
def feeDenom (s : Settings) : Fallible String := return (← s.network.parsedGasPrice).denom

/-! ## Tables -/

def paddedRight (width : Nat) (s : String) : String :=
  s ++ String.ofList (List.replicate (width - s.length) ' ')

def paddedLeft (width : Nat) (s : String) : String :=
  String.ofList (List.replicate (width - s.length) ' ') ++ s

def endingText : Ending → String
  | .success => "ok"
  | .failed => "FAILED"
  | .timedOut => "TIMED OUT"
  | .skipped => "skipped"

/-- The line of a scenario. -/
def scenarioLine (r : ScenarioReport) : String :=
  let why := match r.errorKind, r.error with
    | some kind, some error => "  [" ++ kind.code ++ "] " ++ error
    | none, some reason => "  (" ++ reason ++ ")"
    | _, none => ""
  paddedRight 32 r.name ++ " " ++ paddedRight 10 (endingText r.outcome) ++ " "
    ++ paddedLeft 8 (toString r.durationMs.toNat) ++ "ms" ++ why

/-- The line of the counts. -/
def summaryLine (s : RunSummary) : String :=
  let count (n : UInt64) : String := toString n.toNat
  count s.total ++ " scenarios: " ++ count s.succeeded ++ " succeeded, " ++ count s.failed
    ++ " failed, " ++ count s.timedOut ++ " timed out, " ++ count s.skipped ++ " skipped ("
    ++ Decimal.fixedText 1 s.passRate ++ "% pass rate)"

/-- The line of a contract. -/
def contractLine (role : String) (r : ContractRecord) : String :=
  let code := (r.codeId.map fun n => toString n.toNat).getD "-"
  paddedRight 16 role ++ " code " ++ paddedRight 8 code ++ " " ++ r.address.getD "-"

/-- The lines of a report. -/
def reportLines (r : RunReport) : List String :=
  r.scenarios.map scenarioLine ++ "" :: summaryLine r.summary
    :: (r.registry.roles.filterMap fun role => (r.registry.get? role).map (contractLine role))

/-- The lines of a transaction. -/
def outcomeLines (o : TxOutcome) : List String :=
  ["Gas used: " ++ toString o.gasUsed.toInt ++ "/" ++ toString o.gasWanted.toInt, "Events:",
    o.eventsValue.indented]

/-! ## Commands -/

def runPlan (scene : Scene σ) (s : Settings) (path : String) (selection : Selection)
    (continueOnFailure : Bool) (reportPath : Option String) : Session σ Unit := do
  let files ← files
  let plan ← check (Plan.load files path)
  let plan ← check (plan.select selection)
  let policy :=
    { s.driver with continueOnFailure := s.driver.continueOnFailure || continueOnFailure }
  let d ← signingDeployment scene.node files { s with driver := policy }
  let report ← deploying (d.run scene.stamp plan)
  printAll (reportLines report)
  if let some path := reportPath then write path (Text.toBytes report.fileText)
  report.verdict

/-- Carries a command out. -/
def execute (scene : Scene σ) (s : Settings) (command : Command) : Session σ Unit := do
  let files ← files
  match command with
  | .address publicKey =>
    let w ← loadWallet s
    print (← w.address)
    if publicKey then print ("Public key: " ++ w.publicKey.text)
  | .generate accountPrefix =>
    let (w, phrase) ←
      Wallet.generate scene.chance (accountPrefix.getD s.network.accountPrefix)
    printAll
      ["Address: " ++ (← w.address), "Mnemonic: " ++ phrase, "",
        "IMPORTANT: store the mnemonic safely. It cannot be recovered."]
  | .faucet address denom =>
    let url ← check (match s.network.faucetUrl with
      | some url => .ok url
      | none => .error (.noFaucet s.network.networkName))
    let address ← match address with
      | some a => pure a
      | none => (do (← loadWallet s).address : Fallible String)
    let denom ← match denom with
      | some d => pure d
      | none => feeDenom s
    let said ← exchange scene.node (Faucet.request url address denom)
    print ("Faucet request for " ++ address ++ " (" ++ denom ++ ") accepted")
    if !Text.allBlank said then print (Text.trim said)
  | .balance address denom =>
    let denom ← match denom with
      | some d => pure d
      | none => feeDenom s
    let d ← readingDeployment scene.node files s
    if address.isNone && d.sender = "" then
      let _ ← s.requireMnemonic
    let coin ← performing (d.balance address denom)
    print (coin.amount.text ++ " " ++ coin.denom)
  | .send recipient amount =>
    let coins ← check (readCoins amount)
    if coins.isEmpty then throw (.configuration .nothingToSend)
    let d ← signingDeployment scene.node files s
    let o ← performing (d.send recipient coins)
    printAll
      (["Sent " ++ amount ++ " to " ++ recipient, "Transaction: " ++ o.txHash] ++ outcomeLines o)
  | .deploy artifact init label role funds =>
    let init ← check (readMessage init)
    let funds ← check (readCoins (funds.getD ""))
    let d ← signingDeployment scene.node files s
    let act : Act σ (Fallible UInt64 × Fallible String) := do
      let code ← d.uploadArtifact role artifact
      let address ← Deployment.andThen code fun _ => d.instantiate role init label funds
      return (code, address)
    let (code, address) ← deploying act
    print ("Code ID: " ++ toString (← code).toNat)
    print ("Contract address: " ++ (← address))
  | .exec contract msg funds =>
    let msg ← check (readMessage msg)
    let funds ← check (readCoins (funds.getD ""))
    let d ← signingDeployment scene.node files s
    let act : Act σ (Fallible TxOutcome) := do
      Deployment.adopt defaultRole contract
      d.execute defaultRole msg funds
    let o ← performing act
    printAll
      (["Transaction: " ++ o.txHash, "Height: " ++ toString o.height.toInt] ++ outcomeLines o)
  | .query contract msg =>
    let msg ← check (readMessage msg)
    let d ← readingDeployment scene.node files s
    let act : Act σ (Fallible Json) := do
      Deployment.adopt defaultRole contract
      d.query defaultRole msg
    let response ← performing act
    print response.indented
  | .run plan selection continueOnFailure report =>
    runPlan scene s plan selection continueOnFailure report
  | .status =>
    let _ ← Connection.make s.network none
    let height ← exchange scene.node Connection.latestBlock
    printAll
      ["Network: " ++ s.network.networkName, "Chain ID: " ++ s.network.chainId,
        "RPC: " ++ s.network.rpcUrl, "Latest block: " ++ toString height.toNat]

/-- Loads the settings and carries a command out. -/
def perform (scene : Scene σ) (around : Surroundings) (i : Invocation) : Session σ Unit := do
  let settings ← (Settings.load around i.config i.network : Fallible Settings)
  execute scene settings i.command

end Rollout.Cli
