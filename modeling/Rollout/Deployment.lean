import Rollout.Client
import Rollout.Manager
import Rollout.Report
import Rollout.Settings.Basic

/-!
# Operations on contracts

The operations of a rollout: code is uploaded and contracts are instantiated, executed and queried
under their roles. What is known of a role is in the registry, and each operation leaves a report.

A call on the chain has a time to be answered in. If it is not answered, or fails in a way that may
pass, it is made again with the same arguments after a growing wait, as often as the policy allows;
the last attempt counts. The report of an operation tells of its last attempt only.
-/

namespace Rollout

/-- Who deploys, through which client, and by which rules. -/
structure Deployment (σ : Type) where
  client : Client σ
  sender : String
  policy : RunPolicy
  files : Files

/-- How far a rollout is: what is known of the contracts, the reports not yet taken, what was
noted on committed transactions, and the state of the client. -/
structure Progress (σ : Type) where
  registry : Registry
  steps : List StepReport
  notes : List String
  world : σ

/-- Nothing done yet. -/
def Progress.start (world : σ) : Progress σ := ⟨.empty, [], [], world⟩

/-- A part of a rollout. -/
abbrev Act (σ α : Type) := Timed (Progress σ) α

namespace Deployment

/-! ## Calls -/

/-- An act of the client as a part of the rollout. -/
def onWorld (act : Timed σ α) : Act σ α :=
  act.zoom (·.world) fun w p => { p with world := w }

/-- Makes a call once, within the time for an operation. -/
def attempt (d : Deployment σ) (c : Call) : Act σ (Fallible c.Answer) := do
  match ← (onWorld (d.client.call c)).within d.policy.operationTimeoutMs with
  | some r => return r
  | none => return .error (.timeout c.operation d.policy.operationTimeoutMs)

/-- Makes a call, and again after a wait as long as attempts are left and the failure may pass;
`failed` attempts came before. -/
def perform (d : Deployment σ) (c : Call) (failed : Nat) : (left : Nat) → Act σ (Fallible c.Answer)
  | 0 => d.attempt c
  | left + 1 => do
    match ← d.attempt c with
    | .ok a => return .ok a
    | .error f =>
      if f.retryable then
        Timed.wait (d.policy.retry.backoff (failed + 1))
        d.perform c (failed + 1) left
      else return .error f

/-- Makes a call with all attempts that the policy allows. -/
def call (d : Deployment σ) (c : Call) : Act σ (Fallible c.Answer) :=
  d.perform c 0 d.policy.retry.maxRetries.toNat

/-! ## Records -/

def registry : Act σ Registry := return (← Timed.get).registry

def changeRegistry (f : Registry → Registry) : Act σ Unit :=
  Timed.modify fun p => { p with registry := f p.registry }

/-- Leaves a report on how an operation ended. -/
def reported (operation : Operation) (role : Option String) (act : Act σ (Fallible α)) :
    Act σ (Fallible α) := do
  let started ← Timed.now
  let r ← act
  let ended ← Timed.now
  let report := StepReport.ofResult operation role (reportedMs (ended - started)) r
  Timed.modify fun p => { p with steps := p.steps ++ [report] }
  return r

/-- Takes the reports that have been left. -/
def takeReports : Act σ (List StepReport) := do
  let p ← Timed.get
  Timed.modify fun p => { p with steps := [] }
  return p.steps

/-- Uses a contract that is there already. -/
def adopt (role address : String) : Act σ Unit := changeRegistry fun r => r.recordAddress role address

/-- Uses code that is there already. -/
def adoptCode (role : String) (codeId : UInt64) : Act σ Unit :=
  changeRegistry fun r => r.recordCode role codeId

/-! ## Operations -/

/-- Goes on with a value, or ends with the failure. -/
def andThen (r : Fallible α) (next : α → Act σ (Fallible β)) : Act σ (Fallible β) :=
  match r with
  | .ok a => next a
  | .error f => return .error f

/-- Uploads code for a role. -/
def upload (d : Deployment σ) (role : String) (wasm : Bytes) : Act σ (Fallible UInt64) :=
  reported .upload (some role) do
    let r ← d.call (.upload d.sender wasm)
    if let .ok codeId := r then changeRegistry fun g => g.recordCode role codeId
    return r

/-- Uploads the code in a file. Reading it is waited for, but takes no time. -/
def uploadArtifact (d : Deployment σ) (role path : String) : Act σ (Fallible UInt64) := do
  let path := d.policy.artifactPath d.files path
  Timed.pause
  match d.files.read path with
  | .ok wasm => d.upload role wasm
  | .error fault =>
    reported .upload (some role) (return .error (.artifact path fault.message))

/-- Instantiates the code of a role; the label is the role unless one is given. -/
def instantiate (d : Deployment σ) (role : String) (msg : Json) (label : Option String)
    (funds : List Coin) : Act σ (Fallible String) :=
  reported .instantiate (some role) do
    andThen ((← registry).codeId role) fun codeId => do
      let r ← d.call (.instantiate d.sender codeId msg (label.getD role) funds)
      if let .ok address := r then changeRegistry fun g => g.recordAddress role address
      return r

/-- Executes the contract of a role. -/
def execute (d : Deployment σ) (role : String) (msg : Json) (funds : List Coin) :
    Act σ (Fallible TxOutcome) :=
  reported .execute (some role) do
    andThen ((← registry).address role) fun contract =>
      d.call (.execute d.sender contract msg funds)

/-- Queries the contract of a role. -/
def query (d : Deployment σ) (role : String) (msg : Json) : Act σ (Fallible Json) :=
  reported .query (some role) do
    andThen ((← registry).address role) fun contract => d.call (.query contract msg)

/-- The balance of an address, which is the sender's own unless one is given. -/
def balance (d : Deployment σ) (address : Option String) (denom : String) : Act σ (Fallible Coin) :=
  reported .balance none (d.call (.balance (address.getD d.sender) denom))

/-- Sends coins. -/
def send (d : Deployment σ) (recipient : String) (amount : List Coin) : Act σ (Fallible TxOutcome) :=
  reported .send none (d.call (.send d.sender recipient amount))

/-! ## The manager contract -/

/-- Records the address that a transaction reports for an instantiated contract, if it does. -/
def recordInstantiated (role : String) (o : TxOutcome) : Act σ Unit :=
  match o.findAttribute "instantiate" "_contract_address" with
  | some address => changeRegistry fun g => g.recordAddress role address
  | none => return

/-- Executes a manager with a message that makes it instantiate the code of a role. -/
def instantiateThrough (d : Deployment σ) (manager role : String) (funds : List Coin)
    (message : UInt64 → ManagerCall) : Act σ (Fallible TxOutcome) := do
  andThen ((← registry).codeId role) fun codeId => do
    let r ← d.execute manager (message codeId).encode funds
    if let .ok o := r then recordInstantiated role o
    return r

/-- Lets a manager instantiate a swap contract. -/
def instantiateSwap (d : Deployment σ) (manager swap : String) (debug : Bool)
    (funds : List Coin) : Act σ (Fallible TxOutcome) :=
  d.instantiateThrough manager swap funds fun codeId => .instantiateSwap codeId debug

/-- Lets a manager instantiate the token of a fund. -/
def instantiateToken (d : Deployment σ) (manager token etfName etfSymbol : String) :
    Act σ (Fallible TxOutcome) :=
  d.instantiateThrough manager token [] fun codeId => .instantiateToken codeId etfName etfSymbol

/-- Buys into a fund, through the swap contract of a role if one is given. -/
def swapTokens (d : Deployment σ) (manager : String) (swap : Option String)
    (initialBalance : Coin) (etf : Bundle) (funds : List Coin) : Act σ (Fallible TxOutcome) := do
  let g ← registry
  let contract : Fallible (Option String) :=
    match swap with
    | some role => (g.address role).map some
    | none => .ok none
  andThen contract fun contract =>
    d.execute manager (ManagerCall.swapTokens contract initialBalance etf).encode funds

/-- Redeems the tokens of a fund. -/
def redeemTokens (d : Deployment σ) (manager etfName : String) (funds : List Coin) :
    Act σ (Fallible TxOutcome) :=
  d.execute manager (ManagerCall.redeemTokens etfName).encode funds

/-- Asks a manager and reads its response. -/
def queryManager (d : Deployment σ) (manager : String) (q : ManagerQuery) (decode : Decode α) :
    Act σ (Fallible α) := do
  andThen (← d.query manager q.encode) fun v =>
    return (decode v).mapError .serialization

def tokens (d : Deployment σ) (manager etfType : String) : Act σ (Fallible TokensHeld) :=
  d.queryManager manager (.tokens d.sender etfType) TokensHeld.shape.decode

def tokenBalance (d : Deployment σ) (manager etfType : String) : Act σ (Fallible TokenBalance) :=
  d.queryManager manager (.balance d.sender etfType) TokenBalance.shape.decode

def initialSwap (d : Deployment σ) (manager : String) : Act σ (Fallible InitialSwap) :=
  d.queryManager manager (.initialSwap d.sender) InitialSwap.shape.decode

end Deployment

end Rollout
