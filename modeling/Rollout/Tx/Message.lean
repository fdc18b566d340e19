import Rollout.Json.Printer
import Rollout.Tx.Basic

/-!
# Messages to the chain

What changes the chain travels as a message: code is stored, a contract is instantiated or executed,
or coins are sent. Each kind of message has a type name, by which it is read back; what is said to a
contract is the compact text of its value.
-/

namespace Rollout

open Wire

structure StoreCode where
  sender : String
  wasm : Bytes
deriving DecidableEq

def StoreCode.layout : Layout StoreCode where
  empty := ⟨"", []⟩
  slots :=
    [slot 1 .text (·.sender) fun a v => { a with sender := v },
      slot 2 .bytes (·.wasm) fun a v => { a with wasm := v }]

structure InstantiateContract where
  sender : String
  admin : String
  codeId : UInt64
  label : String
  msg : Bytes
  funds : List CoinText
deriving DecidableEq

def InstantiateContract.layout : Layout InstantiateContract where
  empty := ⟨"", "", 0, "", [], []⟩
  slots :=
    [slot 1 .text (·.sender) fun a v => { a with sender := v },
      slot 2 .text (·.admin) fun a v => { a with admin := v },
      slot 3 .number (·.codeId) fun a v => { a with codeId := v },
      slot 4 .text (·.label) fun a v => { a with label := v },
      slot 5 .bytes (·.msg) fun a v => { a with msg := v },
      slot 6 (.messages CoinText.layout) (·.funds) fun a v => { a with funds := v }]

structure ExecuteContract where
  sender : String
  contract : String
  msg : Bytes
  funds : List CoinText
deriving DecidableEq

def ExecuteContract.layout : Layout ExecuteContract where
  empty := ⟨"", "", [], []⟩
  slots :=
    [slot 1 .text (·.sender) fun a v => { a with sender := v },
      slot 2 .text (·.contract) fun a v => { a with contract := v },
      slot 3 .bytes (·.msg) fun a v => { a with msg := v },
      slot 5 (.messages CoinText.layout) (·.funds) fun a v => { a with funds := v }]

structure SendCoins where
  sender : String
  recipient : String
  amount : List CoinText
deriving DecidableEq

def SendCoins.layout : Layout SendCoins where
  empty := ⟨"", "", []⟩
  slots :=
    [slot 1 .text (·.sender) fun a v => { a with sender := v },
      slot 2 .text (·.recipient) fun a v => { a with recipient := v },
      slot 3 (.messages CoinText.layout) (·.amount) fun a v => { a with amount := v }]

/-- A message that changes the chain. -/
inductive TxMessage where
  | storeCode (m : StoreCode)
  | instantiate (m : InstantiateContract)
  | execute (m : ExecuteContract)
  | send (m : SendCoins)
deriving DecidableEq

namespace TxMessage

def typeUrl : TxMessage → String
  | storeCode _ => "/cosmwasm.wasm.v1.MsgStoreCode"
  | instantiate _ => "/cosmwasm.wasm.v1.MsgInstantiateContract"
  | execute _ => "/cosmwasm.wasm.v1.MsgExecuteContract"
  | send _ => "/cosmos.bank.v1beta1.MsgSend"

def bytes : TxMessage → Bytes
  | storeCode m => StoreCode.layout.encode m
  | instantiate m => InstantiateContract.layout.encode m
  | execute m => ExecuteContract.layout.encode m
  | send m => SendCoins.layout.encode m

def typed (m : TxMessage) : TypedValue := ⟨m.typeUrl, m.bytes⟩

/-- The message of a typed value of one of the four kinds. -/
def ofTyped? (v : TypedValue) : Option TxMessage :=
  match v.typeUrl with
  | "/cosmwasm.wasm.v1.MsgStoreCode" => (StoreCode.layout.decode? v.value).map storeCode
  | "/cosmwasm.wasm.v1.MsgInstantiateContract" =>
    (InstantiateContract.layout.decode? v.value).map instantiate
  | "/cosmwasm.wasm.v1.MsgExecuteContract" => (ExecuteContract.layout.decode? v.value).map execute
  | "/cosmos.bank.v1beta1.MsgSend" => (SendCoins.layout.decode? v.value).map send
  | _ => none

/-- A message for a contract as bytes. -/
def payload (v : Json) : Bytes := Text.toBytes v.compact

end TxMessage

end Rollout
