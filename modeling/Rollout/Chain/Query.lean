import Rollout.Tx.Basic

/-!
# Lookups

What a client looks up at a node, and what it finds: accounts, the gas that a transaction would use,
answers of contracts, and balances. Each lookup has a path; its subject and what is found are
messages.
-/

namespace Rollout

open Wire

/-! ## Accounts -/

structure AccountQuery where
  address : String
deriving DecidableEq

def AccountQuery.layout : Layout AccountQuery where
  empty := ⟨""⟩
  slots := [slot 1 .text (·.address) fun _ v => ⟨v⟩]

def AccountQuery.path : String := "/cosmos.auth.v1beta1.Query/Account"

/-- An account of any type, if there is one. -/
structure AccountFound where
  account : Option TypedValue
deriving DecidableEq

def AccountFound.layout : Layout AccountFound where
  empty := ⟨none⟩
  slots := [slot 1 (.message TypedValue.layout) (·.account) fun _ v => ⟨v⟩]

/-- An account: its number on the chain, and how many transactions it has signed. -/
structure Account where
  address : String
  publicKey : Option TypedValue
  number : UInt64
  sequence : UInt64
deriving DecidableEq

def Account.layout : Layout Account where
  empty := ⟨"", none, 0, 0⟩
  slots :=
    [slot 1 .text (·.address) fun a v => { a with address := v },
      slot 2 (.message TypedValue.layout) (·.publicKey) fun a v => { a with publicKey := v },
      slot 3 .number (·.number) fun a v => { a with number := v },
      slot 4 .number (·.sequence) fun a v => { a with sequence := v }]

/-! ## Simulation -/

structure SimulationQuery where
  tx : Bytes
deriving DecidableEq

def SimulationQuery.layout : Layout SimulationQuery where
  empty := ⟨[]⟩
  slots := [slot 2 .bytes (·.tx) fun _ v => ⟨v⟩]

def SimulationQuery.path : String := "/cosmos.tx.v1beta1.Service/Simulate"

structure GasInfo where
  wanted : UInt64
  used : UInt64
deriving DecidableEq

def GasInfo.layout : Layout GasInfo where
  empty := ⟨0, 0⟩
  slots :=
    [slot 1 .number (·.wanted) fun a v => { a with wanted := v },
      slot 2 .number (·.used) fun a v => { a with used := v }]

/-- One thing that is said of an event, and whether nodes index it. -/
structure AttributeFound where
  key : Bytes
  value : Bytes
  indexed : Bool
deriving DecidableEq

def AttributeFound.layout : Layout AttributeFound where
  empty := ⟨[], [], false⟩
  slots :=
    [slot 1 .bytes (·.key) fun a v => { a with key := v },
      slot 2 .bytes (·.value) fun a v => { a with value := v },
      slot 3 .flag (·.indexed) fun a v => { a with indexed := v }]

structure EventFound where
  kind : String
  attributes : List AttributeFound
deriving DecidableEq

def EventFound.layout : Layout EventFound where
  empty := ⟨"", []⟩
  slots :=
    [slot 1 .text (·.kind) fun a v => { a with kind := v },
      slot 2 (.messages AttributeFound.layout) (·.attributes) fun a v => { a with attributes := v }]

/-- What the messages of a transaction would come to. -/
structure SimulationResult where
  data : Bytes
  log : String
  events : List EventFound
  responses : List TypedValue
deriving DecidableEq

def SimulationResult.layout : Layout SimulationResult where
  empty := ⟨[], "", [], []⟩
  slots :=
    [slot 1 .bytes (·.data) fun a v => { a with data := v },
      slot 2 .text (·.log) fun a v => { a with log := v },
      slot 3 (.messages EventFound.layout) (·.events) fun a v => { a with events := v },
      slot 4 (.messages TypedValue.layout) (·.responses) fun a v => { a with responses := v }]

/-- The gas and the result of a simulation. Only the gas is used, but a result that is not readable
makes the whole unreadable. -/
structure SimulationFound where
  gas : Option GasInfo
  result : Option SimulationResult
deriving DecidableEq

def SimulationFound.layout : Layout SimulationFound where
  empty := ⟨none, none⟩
  slots :=
    [slot 1 (.message GasInfo.layout) (·.gas) fun a v => { a with gas := v },
      slot 2 (.message SimulationResult.layout) (·.result) fun a v => { a with result := v }]

/-! ## Contracts -/

structure ContractQuery where
  contract : String
  msg : Bytes
deriving DecidableEq

def ContractQuery.layout : Layout ContractQuery where
  empty := ⟨"", []⟩
  slots :=
    [slot 1 .text (·.contract) fun a v => { a with contract := v },
      slot 2 .bytes (·.msg) fun a v => { a with msg := v }]

def ContractQuery.path : String := "/cosmwasm.wasm.v1.Query/SmartContractState"

structure ContractFound where
  data : Bytes
deriving DecidableEq

def ContractFound.layout : Layout ContractFound where
  empty := ⟨[]⟩
  slots := [slot 1 .bytes (·.data) fun _ v => ⟨v⟩]

/-! ## Balances -/

structure BalanceQuery where
  address : String
  denom : String
deriving DecidableEq

def BalanceQuery.layout : Layout BalanceQuery where
  empty := ⟨"", ""⟩
  slots :=
    [slot 1 .text (·.address) fun a v => { a with address := v },
      slot 2 .text (·.denom) fun a v => { a with denom := v }]

def BalanceQuery.path : String := "/cosmos.bank.v1beta1.Query/Balance"

structure BalanceFound where
  balance : Option CoinText
deriving DecidableEq

def BalanceFound.layout : Layout BalanceFound where
  empty := ⟨none⟩
  slots := [slot 1 (.message CoinText.layout) (·.balance) fun _ v => ⟨v⟩]

end Rollout
