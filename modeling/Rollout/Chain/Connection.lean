import Rollout.Chain.Endpoint
import Rollout.Chain.Exchange
import Rollout.Chain.Query
import Rollout.Client
import Rollout.Json.Parser
import Rollout.Settings.Basic
import Rollout.Tx.Message
import Rollout.Wallet.Basic

/-!
# Connections

A connection carries calls out at a node, and signs with a wallet if it has one. A call that changes
the chain is made for the account of the wallet only. It looks the account up, finds out how much gas
it takes unless the network says so, signs, and waits until the transaction is in a block; at each
stage a code other than zero rejects the operation with the log of the node. A call that only reads
takes one lookup.
-/

namespace Rollout

open Wire

/-- A network, and the wallet to sign with. -/
structure Connection where
  network : Network
  wallet : Option Wallet

namespace Connection

/-- A connection to the endpoint of a network. -/
def make (network : Network) (wallet : Option Wallet) : Fallible Connection :=
  if isEndpoint network.rpcUrl then .ok ⟨network, wallet⟩
  else .error (.connection "Failed to create RPC client: not an endpoint")

/-- The wallet of the connection. -/
def requireWallet (c : Connection) : Fallible Wallet :=
  match c.wallet with
  | some w => .ok w
  | none => .error (.configuration .noWallet)

/-- The wallet of the connection, if it is the sender's. -/
def signerFor (c : Connection) (sender : String) : Fallible Wallet := do
  let w ← c.requireWallet
  let address ← w.address
  if address = sender then return w else .error (.configuration (.senderMismatch sender address))

/-- A failure on the way to the node and back. -/
def broken (what : String) : Failure := .connection (what ++ ": no usable reply")

/-- Sends a request; `what` says what failed if there is no usable reply. -/
def send (what : String) (r : NodeRequest) : Exchange r.Reply :=
  .asks r fun
    | some reply => return reply
    | none => .fail (broken what)

/-- Looks something up for an operation. -/
def lookup (operation : Operation) (path : String) (data : Bytes) : Exchange Bytes := do
  let reply ← send ("ABCI query " ++ path ++ " failed") (.lookup path data)
  if reply.code = 0 then return reply.value else .fail (.rejected operation reply.log)

/-- Reads a message that was found. -/
def readAs (l : Layout α) (what : String) (bytes : Bytes) : Fallible α :=
  match l.decode? bytes with
  | some a => .ok a
  | none => .error (broken ("Failed to decode " ++ what))

/-- The account of an address; one that is not there rejects the operation. -/
def account (operation : Operation) (address : String) : Exchange Account := do
  let bytes ← lookup operation AccountQuery.path (AccountQuery.layout.encode ⟨address⟩)
  let found ← readAs AccountFound.layout "account response" bytes
  match found.account with
  | some typed => readAs Account.layout "BaseAccount" typed.value
  | none => .fail (.rejected operation ("account " ++ address ++ " not found"))

/-- The gas that a signed transaction would use. -/
def simulate (operation : Operation) (tx : SignedTx) : Exchange UInt64 := do
  let query : SimulationQuery := ⟨SignedTx.layout.encode tx⟩
  let bytes ← lookup operation SimulationQuery.path (SimulationQuery.layout.encode query)
  let found ← readAs SimulationFound.layout "simulate response" bytes
  match found.gas with
  | some gas => return gas.used
  | none => .fail (.rejected operation "simulation returned no gas info")

/-- The gas limit of the transaction that is only simulated. -/
def simulationGasLimit : UInt64 := 10000000

/-- The gas limit for a transaction that used the given gas when it was simulated. -/
def adjustedGasLimit (network : Network) (used : UInt64) : UInt64 :=
  UInt64.ofNat (Decimal.ceilWithin (UInt64.size - 1) (used.toFloat * network.gasAdjustment))

/-- The transaction of a message, with the fee for a gas limit. -/
def signed (c : Connection) (w : Wallet) (account : Account) (price : GasPrice)
    (message : TxMessage) (gasLimit : UInt64) : Fallible SignedTx := do
  let fee ← (Fee.ofPrice price gasLimit).mapError .configuration
  w.signTx account.number account.sequence c.network.chainId fee [message.typed] none none

/-- The gas limit that a transaction is sent with: the one of the network, or what a simulation
gives. -/
def gasLimit (c : Connection) (operation : Operation) (w : Wallet) (account : Account)
    (price : GasPrice) (message : TxMessage) : Exchange UInt64 := do
  match c.network.gasLimit with
  | some limit => return limit
  | none =>
    let tx ← c.signed w account price message simulationGasLimit
    return adjustedGasLimit c.network (← simulate operation tx)

/-- What a committed transaction reports. -/
def outcome (operation : Operation) (reply : CommitReply) : Fallible TxOutcome :=
  if reply.check.code ≠ 0 then .error (.rejected operation reply.check.log)
  else if reply.result.code ≠ 0 then .error (.rejected operation reply.result.log)
  else
    .ok
      { txHash := Text.hexUpper reply.hash
        height := reply.height
        gasWanted := reply.result.gasWanted
        gasUsed := reply.result.gasUsed
        events := reply.result.events }

/-- Signs a message, sends it and waits until it is in a block. -/
def transact (c : Connection) (operation : Operation) (sender : String) (message : TxMessage) :
    Exchange TxOutcome := do
  let w ← c.signerFor sender
  let account ← account operation sender
  let price ← c.network.parsedGasPrice
  let limit ← c.gasLimit operation w account price message
  let tx ← c.signed w account price message limit
  let reply ← send "Failed to broadcast transaction" (.commit (SignedTx.layout.encode tx))
  outcome operation reply

/-! ## Calls -/

/-- The number of the code that a transaction has stored. -/
def storedCode (o : TxOutcome) : Fallible UInt64 :=
  match o.findAttribute "store_code" "code_id" with
  | none => .error (.connection ("Tx " ++ o.txHash ++ " committed without a code_id event"))
  | some text =>
    match (Text.readUnsigned? text.toList).filter (· < UInt64.size) with
    | some n => .ok (UInt64.ofNat n)
    | none =>
      .error (.connection
        ("Tx " ++ o.txHash ++ " committed with malformed code_id '" ++ text ++ "'"))

/-- The address of the contract that a transaction has instantiated. -/
def instantiatedContract (o : TxOutcome) : Fallible String :=
  match o.findAttribute "instantiate" "_contract_address" with
  | some address => .ok address
  | none =>
    .error (.connection ("Tx " ++ o.txHash ++ " committed without a contract address event"))

/-- The response of a contract. -/
def contractResponse (bytes : Bytes) : Fallible Json := do
  let found ← readAs ContractFound.layout "query response" bytes
  match (Text.ofBytes? found.data).bind Json.parse? with
  | some v => return v
  | none => .error (.serialization .mismatch)

/-- The balance that was found; one that is missing is zero. -/
def foundBalance (denom : String) (bytes : Bytes) : Fallible Coin := do
  let found ← readAs BalanceFound.layout "balance response" bytes
  let coin := found.balance.getD ⟨denom, "0"⟩
  match Amount.parse? coin.amount with
  | some amount => return ⟨coin.denom, amount⟩
  | none => .error (.queryRejected "Malformed amount: not a number of coins")

/-- Carries a call out. -/
def exchange (c : Connection) : (call : Call) → Exchange call.Answer
  | .upload sender wasm => do
    storedCode (← c.transact .upload sender (.storeCode ⟨sender, wasm⟩))
  | .instantiate sender codeId msg label funds => do
    let message : InstantiateContract :=
      ⟨sender, "", codeId, label, TxMessage.payload msg, funds.map .ofCoin⟩
    instantiatedContract (← c.transact .instantiate sender (.instantiate message))
  | .execute sender contract msg funds =>
    c.transact .execute sender
      (.execute ⟨sender, contract, TxMessage.payload msg, funds.map .ofCoin⟩)
  | .send sender recipient amount =>
    c.transact .send sender (.send ⟨sender, recipient, amount.map .ofCoin⟩)
  | .query contract msg => do
    let query : ContractQuery := ⟨contract, TxMessage.payload msg⟩
    contractResponse
      (← lookup .query ContractQuery.path (ContractQuery.layout.encode query))
  | .balance address denom => do
    let query : BalanceQuery := ⟨address, denom⟩
    foundBalance denom
      (← lookup .balance BalanceQuery.path (BalanceQuery.layout.encode query))

/-- The client that carries calls out at a node. -/
def client (c : Connection) (n : Node σ) : Client σ := ⟨fun call => (c.exchange call).hold n⟩

/-- The height of the latest block. -/
def latestBlock : Exchange UInt64 :=
  send "Failed to get last block height" .latestBlock

end Connection

end Rollout
