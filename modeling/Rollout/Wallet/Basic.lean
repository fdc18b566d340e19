import Rollout.Text.Quoted
import Rollout.Tx.Basic
import Rollout.Wallet.Bech32
import Rollout.Wallet.Derivation
import Rollout.Wallet.Phrase
import Rollout.Digest.Ripemd160

/-!
# Wallets

A wallet holds one signing key, made from a phrase and the number of an account, and the readable part
of the addresses on its chain. The key never leaves the wallet: what is shown of it is the address and
the public key.
-/

namespace Rollout

structure Wallet where
  key : Curve.SigningKey
  accountPrefix : String
  accountPrefix_ne : accountPrefix ≠ ""

namespace Wallet

/-- The wallet of a phrase. The phrase is looked at first, then the number of the account, and the
readable part last. -/
def ofPhrase (phrase accountPrefix : String) (index : UInt32) : Fallible Wallet :=
  match Phrase.parse? phrase with
  | none => .error (.invalidMnemonic "not a phrase")
  | some p =>
    if Derivation.hardened ≤ index.toNat then
      .error (.wallet "Invalid derivation path: the number of the account is too large")
    else
      match Derivation.follow? p.seed (Derivation.accountPath index.toNat) with
      | none => .error (.wallet "Key derivation error: there is no key at this path")
      | some node =>
        if h : accountPrefix = "" then .error (.configuration .emptyAccountPrefix)
        else .ok ⟨node.key, accountPrefix, h⟩

/-- A new wallet from sixteen bytes of chance, with its phrase. -/
def generate (chance : Bytes) (accountPrefix : String) : Fallible (Wallet × String) :=
  match Phrase.ofSecret? chance with
  | none => .error (.wallet "Failed to generate mnemonic: not a fitting secret")
  | some p => (ofPhrase p.text accountPrefix 0).map fun w => (w, p.text)

def publicKey (w : Wallet) : PublicKey := ⟨w.key.publicKey⟩

/-- The account of the wallet as bytes. -/
def account (w : Wallet) : Bytes := Digest.ripemd160 (Digest.sha256 w.publicKey.key)

/-- The account of the wallet as it is written on its chain. -/
def address (w : Wallet) : Fallible String :=
  match Bech32.encode? w.accountPrefix w.account with
  | some s => .ok s
  | none => .error (.wallet "Failed to get account ID: not a prefix of addresses")

/-- What may be shown of a wallet. -/
def describe (w : Wallet) : String :=
  let address := w.address.toOption.getD "<invalid>"
  "Wallet \x7b address: " ++ Text.quoted address ++ ", prefix: " ++ Text.quoted w.accountPrefix
    ++ ", .. \x7d"

/-- The signed transaction with the given messages. -/
def signTx (w : Wallet) (accountNumber sequence : UInt64) (chainId : String) (fee : Fee)
    (messages : List TypedValue) (timeoutHeight : Option UInt32) (memo : Option String) :
    Fallible SignedTx :=
  let body : TxBody := ⟨messages, memo.getD "", (timeoutHeight.getD 0).toUInt64⟩
  let signer : SignerInfo := ⟨some w.publicKey.typed, some .direct, sequence⟩
  let authInfo : AuthInfo := ⟨[signer], some fee⟩
  if SignDoc.isChainId chainId then
    let doc : SignDoc :=
      ⟨TxBody.layout.encode body, AuthInfo.layout.encode authInfo, chainId, accountNumber⟩
    .ok ⟨doc.body, doc.authInfo, [w.key.sign (SignDoc.layout.encode doc)]⟩
  else .error (.configuration .chainId)

end Wallet

end Rollout
