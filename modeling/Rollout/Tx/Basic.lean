import Rollout.Failure
import Rollout.Json.Printer
import Rollout.Wire.Layout

/-!
# Transactions

A signed transaction holds its body, what authorises it, and the signatures. The body holds messages
of any type; the authorisation names the signers with their sequence numbers, and the fee. What is
signed is the body and the authorisation as bytes, together with the chain and the number of the
account, so that a signature is of no use elsewhere.
-/

namespace Rollout

open Wire

/-- A value of any type: the name of its type, and its bytes. -/
structure TypedValue where
  typeUrl : String
  value : Bytes
deriving DecidableEq

def TypedValue.layout : Layout TypedValue where
  empty := ⟨"", []⟩
  slots :=
    [slot 1 .text (·.typeUrl) fun a v => { a with typeUrl := v },
      slot 2 .bytes (·.value) fun a v => { a with value := v }]

/-- A coin as it travels: its amount is a text. -/
structure CoinText where
  denom : String
  amount : String
deriving DecidableEq

namespace CoinText

def layout : Layout CoinText where
  empty := ⟨"", ""⟩
  slots :=
    [slot 1 .text (·.denom) fun a v => { a with denom := v },
      slot 2 .text (·.amount) fun a v => { a with amount := v }]

def ofCoin (c : Coin) : CoinText := ⟨c.denom, c.amount.text⟩

end CoinText

/-! ## Fees -/

/-- What a transaction may cost. -/
structure Fee where
  amount : List CoinText
  gasLimit : UInt64
deriving DecidableEq

namespace Fee

def layout : Layout Fee where
  empty := ⟨[], 0⟩
  slots :=
    [slot 1 (.messages CoinText.layout) (·.amount) fun a v => { a with amount := v },
      slot 2 .number (·.gasLimit) fun a v => { a with gasLimit := v }]

def isDenomChar (c : Char) : Bool := c.isAlphanum || "/:._-".contains c

/-- Whether fees can be paid in a denomination. -/
def isDenom (s : String) : Bool :=
  3 ≤ s.length && s.length ≤ 128 && s.toList.all isDenomChar

/-- The fee for a gas limit at a price. -/
def ofPrice (price : GasPrice) (gasLimit : UInt64) : Except ConfigFault Fee :=
  if isDenom price.denom then
    .ok ⟨[.ofCoin ⟨price.denom, price.fee gasLimit⟩], gasLimit⟩
  else .error .feeDenom

end Fee

/-! ## Parts of a transaction -/

structure TxBody where
  messages : List TypedValue
  memo : String
  timeoutHeight : UInt64
deriving DecidableEq

def TxBody.layout : Layout TxBody where
  empty := ⟨[], "", 0⟩
  slots :=
    [slot 1 (.messages TypedValue.layout) (·.messages) fun a v => { a with messages := v },
      slot 2 .text (·.memo) fun a v => { a with memo := v },
      slot 3 .number (·.timeoutHeight) fun a v => { a with timeoutHeight := v }]

/-- A signer who signs alone, in one of several ways. -/
structure SingleMode where
  mode : UInt64
deriving DecidableEq

def SingleMode.layout : Layout SingleMode where
  empty := ⟨0⟩
  slots := [slot 1 .number (·.mode) fun _ v => ⟨v⟩]

structure SignMode where
  single : Option SingleMode
deriving DecidableEq

namespace SignMode

def layout : Layout SignMode where
  empty := ⟨none⟩
  slots := [slot 1 (.message SingleMode.layout) (·.single) fun _ v => ⟨v⟩]

/-- One signer who signs the bytes themselves. -/
def direct : SignMode := ⟨some ⟨1⟩⟩

end SignMode

structure SignerInfo where
  publicKey : Option TypedValue
  mode : Option SignMode
  sequence : UInt64
deriving DecidableEq

def SignerInfo.layout : Layout SignerInfo where
  empty := ⟨none, none, 0⟩
  slots :=
    [slot 1 (.message TypedValue.layout) (·.publicKey) fun a v => { a with publicKey := v },
      slot 2 (.message SignMode.layout) (·.mode) fun a v => { a with mode := v },
      slot 3 .number (·.sequence) fun a v => { a with sequence := v }]

structure AuthInfo where
  signers : List SignerInfo
  fee : Option Fee
deriving DecidableEq

def AuthInfo.layout : Layout AuthInfo where
  empty := ⟨[], none⟩
  slots :=
    [slot 1 (.messages SignerInfo.layout) (·.signers) fun a v => { a with signers := v },
      slot 2 (.message Fee.layout) (·.fee) fun a v => { a with fee := v }]

/-- A public key of 33 bytes. -/
structure PublicKey where
  key : Bytes
deriving DecidableEq

namespace PublicKey

def layout : Layout PublicKey where
  empty := ⟨[]⟩
  slots := [slot 1 .bytes (·.key) fun _ v => ⟨v⟩]

def typeUrl : String := "/cosmos.crypto.secp256k1.PubKey"

def typed (k : PublicKey) : TypedValue := ⟨typeUrl, layout.encode k⟩

/-- A public key for people and for tools. -/
def text (k : PublicKey) : String :=
  (Json.obj [("@type", .str typeUrl), ("key", .str (Text.base64 k.key))]).compact

end PublicKey

/-- What is signed. -/
structure SignDoc where
  body : Bytes
  authInfo : Bytes
  chainId : String
  accountNumber : UInt64
deriving DecidableEq

namespace SignDoc

def layout : Layout SignDoc where
  empty := ⟨[], [], "", 0⟩
  slots :=
    [slot 1 .bytes (·.body) fun a v => { a with body := v },
      slot 2 .bytes (·.authInfo) fun a v => { a with authInfo := v },
      slot 3 .text (·.chainId) fun a v => { a with chainId := v },
      slot 4 .number (·.accountNumber) fun a v => { a with accountNumber := v }]

def isChainIdChar (c : Char) : Bool := c.isAlphanum || "-_.".contains c

/-- Whether a text names a chain. -/
def isChainId (s : String) : Bool :=
  1 ≤ s.length && s.length ≤ 50 && s.toList.all isChainIdChar

end SignDoc

/-- A signed transaction. -/
structure SignedTx where
  body : Bytes
  authInfo : Bytes
  signatures : List Bytes
deriving DecidableEq

namespace SignedTx

def layout : Layout SignedTx where
  empty := ⟨[], [], []⟩
  slots :=
    [slot 1 .bytes (·.body) fun a v => { a with body := v },
      slot 2 .bytes (·.authInfo) fun a v => { a with authInfo := v },
      slot 3 .manyBytes (·.signatures) fun a v => { a with signatures := v }]

end SignedTx

end Rollout
