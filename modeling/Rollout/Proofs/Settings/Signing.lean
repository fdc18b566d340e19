import Rollout.Proofs.Chain.SilentNode
import Rollout.Proofs.Chain.Submission
import Rollout.Proofs.Settings.Validity

/-!
# Settings that are enough to sign

Settings are accepted if nothing is missing in them (`Settings.validate_eq_ok_iff`): the names of a
chain and of a prefix have to hold something that is no blank, and a gas price some denomination.
To sign takes more. An address needs a prefix of small letters and digits, a fee a denomination of
three to 128 characters, and a signature a name of a chain with at most fifty. With all three no
transaction fails for a fault of its settings, and without one of them none is ever submitted
(`Settings.signing_law`). So settings may be accepted with which nothing can be signed
(`Settings.accepted_unsignable`).
-/

namespace Rollout

/-! ## What it takes to sign -/

/-- Transactions can be signed on a network at a price: there are addresses with its prefix, fees in
the denomination, and signatures for the chain. -/
structure Network.Signable (n : Network) (price : GasPrice) : Prop where
  readable : Bech32.isReadable n.accountPrefix = true
  denom : Fee.isDenom price.denom = true
  chain : SignDoc.isChainId n.chainId = true

theorem Wallet.exists_address_iff (w : Wallet) :
    (∃ address, w.address = .ok address) ↔ Bech32.isReadable w.accountPrefix = true := by
  rw [address, Bech32.encode?]
  by_cases h : Bech32.isReadable w.accountPrefix = true
  · simp [h]
  · simp [h]

theorem Fee.exists_ofPrice_iff (price : GasPrice) (limit : UInt64) :
    (∃ fee, Fee.ofPrice price limit = .ok fee) ↔ Fee.isDenom price.denom = true := by
  rw [ofPrice]
  split <;> simp_all

theorem Wallet.exists_signTx_iff (w : Wallet) (number sequence : UInt64) (chainId : String)
    (fee : Fee) (messages : List TypedValue) (timeoutHeight : Option UInt32)
    (memo : Option String) :
    (∃ tx, w.signTx number sequence chainId fee messages timeoutHeight memo = .ok tx) ↔
      SignDoc.isChainId chainId = true := by
  rw [signTx]
  split <;> simp_all

/-! ## Faults of settings -/

/-- A failure that lies in the settings or in the wallet, and not in what a node says. -/
inductive Failure.OfSettings : Failure → Prop
  | configuration (fault : ConfigFault) : OfSettings (.configuration fault)
  | wallet (reason : String) : OfSettings (.wallet reason)

theorem Failure.OfNode.not_ofSettings {operation : Operation} {f : Failure}
    (h : f.OfNode operation) : ¬f.OfSettings := by
  cases h with
  | rejected log => cases operation <;> exact nofun
  | connection => exact nofun

namespace Exchange

/-- An exchange that fails in some ways only, whatever the replies. -/
inductive FailsAs (P : Failure → Prop) : Exchange α → Prop
  | ends (r : Fallible α) (h : Rollout.FailsAs P r) : FailsAs P (.ends r)
  | asks {r : NodeRequest} {next : Option r.Reply → Exchange α}
      (h : ∀ reply, FailsAs P (next reply)) : FailsAs P (.asks r next)

variable {P : Failure → Prop}

theorem FailsAs.bind {e : Exchange α} {next : α → Exchange β} (he : e.FailsAs P)
    (hnext : ∀ a, (next a).FailsAs P) : (e >>= next).FailsAs P := by
  induction he with
  | ends r h =>
      cases r with
      | ok a => exact hnext a
      | error f => exact .ends _ (failsAs_error (h f rfl))
  | asks _ ih => exact .asks ih

theorem failsAs_round {r : NodeRequest} {read : Option r.Reply → Fallible α}
    (h : ∀ reply, Rollout.FailsAs P (read reply)) :
    (asks r fun reply => .ends (read reply)).FailsAs P :=
  .asks fun reply => .ends _ (h reply)

theorem FailsAs.transcript {e : Exchange α} (he : e.FailsAs P) :
    ∀ {log : List NodeEvent} {f : Failure}, e.Transcript log (some (.error f)) → P f := by
  induction he with
  | ends r h =>
      rintro log f ⟨⟩
      exact h f rfl
  | asks _ ih =>
      intro log f h
      cases h with
      | answered reply h => exact ih reply h

/-- What is played with some replies is a transcript. -/
theorem transcript_play (reply : (r : NodeRequest) → Option r.Reply) :
    ∀ e : Exchange α, e.Transcript (e.play reply).2 (some (e.play reply).1)
  | ends result => .ended result
  | asks r next => .answered (reply r) (transcript_play reply (next (reply r)))

/-- Of two exchanges that are played, the second one decides the end if the first has a value. -/
theorem play_bind_ok {reply : (r : NodeRequest) → Option r.Reply} {a : α} (next : α → Exchange β) :
    ∀ {e : Exchange α}, (e.play reply).1 = .ok a →
      ((e >>= next).play reply).1 = ((next a).play reply).1
  | ends (.ok _), rfl => rfl
  | asks r rest, h => play_bind_ok next (e := rest (reply r)) h

theorem play_bind_error {reply : (r : NodeRequest) → Option r.Reply} {f : Failure}
    (next : α → Exchange β) : ∀ {e : Exchange α}, (e.play reply).1 = .error f →
      ((e >>= next).play reply).1 = .error f
  | ends (.error _), rfl => rfl
  | asks r rest, h => play_bind_error next (e := rest (reply r)) h

end Exchange

namespace Connection

open Wire

variable {c : Connection} {sender : String} {w : Wallet} {price : GasPrice}

/-! ## Transactions that can be signed -/

theorem Signs.gasLimit_fails (h : c.Signs sender w price) (operation : Operation) (a : Account)
    (message : TxMessage) :
    (c.gasLimit operation w a price message).FailsAs (Failure.OfNode operation) := by
  rw [gasLimit]
  cases c.network.gasLimit with
  | some limit => exact .ends _ (failsAs_ok limit)
  | none =>
      obtain ⟨tx, htx⟩ := h.signed a message simulationGasLimit
      rw [htx, Exchange.ok_bind, simulate_eq]
      refine (Exchange.failsAs_round fun reply => ?_).bind fun used => .ends _ (failsAs_ok _)
      exact (valueIn_fails operation _ reply).bind (gasIn_fails operation)

theorem Signs.transact_fails (h : c.Signs sender w price) (operation : Operation)
    (message : TxMessage) :
    (c.transact operation sender message).FailsAs (Failure.OfNode operation) := by
  rw [transact, h.signer, Exchange.ok_bind, account_eq]
  refine (Exchange.failsAs_round fun reply => ?_).bind fun a => ?_
  · exact (valueIn_fails operation _ reply).bind (accountIn_fails operation sender)
  rw [h.priced, Exchange.ok_bind]
  refine (h.gasLimit_fails operation a message).bind fun limit => ?_
  obtain ⟨tx, htx⟩ := h.signed a message limit
  rw [htx, Exchange.ok_bind, submit_eq]
  exact Exchange.failsAs_round (committed_fails operation)

/-- A transaction that can be signed fails for what the node says, and for nothing else. -/
theorem Signs.exchange_fails (h : c.Signs sender w price) {k : Call} {message : TxMessage}
    (hk : transaction? k = some (sender, message)) :
    (c.exchange k).FailsAs (Failure.OfNode k.operation) := by
  rw [c.exchange_eq hk]
  exact (h.transact_fails _ message).bind fun o => .ends _ (reading_fails k o)

/-! ## Transactions that cannot be signed -/

/-- Nothing is signed without a denomination for the fee and a name of the chain. -/
theorem signed_unsignable (hunsignable :
      ¬(Fee.isDenom price.denom = true ∧ SignDoc.isChainId c.network.chainId = true))
    (w : Wallet) (a : Account) (message : TxMessage) (limit : UInt64) :
    ∃ fault, c.signed w a price message limit = .error (.configuration fault) := by
  by_cases hdenom : Fee.isDenom price.denom = true
  · have hchain : ¬SignDoc.isChainId c.network.chainId = true := fun h => hunsignable ⟨hdenom, h⟩
    refine ⟨.chainId, ?_⟩
    rw [signed, Fee.ofPrice, if_pos hdenom]
    exact if_neg hchain
  · refine ⟨.feeDenom, ?_⟩
    rw [signed, Fee.ofPrice, if_neg hdenom]
    rfl

/-- A transaction that is never signed fails once its gas is settled on, if not before. -/
theorem play_unsignable (hunsignable :
      ¬(Fee.isDenom price.denom = true ∧ SignDoc.isChainId c.network.chainId = true))
    (operation : Operation) (w : Wallet) (a : Account) (message : TxMessage)
    (next : SignedTx → Exchange α) :
    ∃ fault, ((c.gasLimit operation w a price message >>= fun limit =>
      liftM (c.signed w a price message limit) >>= next).play silentReply).1 =
        .error (.configuration fault) := by
  rw [gasLimit]
  cases c.network.gasLimit with
  | some limit =>
      obtain ⟨fault, hfault⟩ := signed_unsignable hunsignable w a message limit
      refine ⟨fault, ?_⟩
      change ((liftM (c.signed w a price message limit) >>= next).play silentReply).1 = _
      rw [hfault]
      rfl
  | none =>
      obtain ⟨fault, hfault⟩ := signed_unsignable hunsignable w a message simulationGasLimit
      refine ⟨fault, ?_⟩
      rw [hfault]
      rfl

/-- A call that its settings rule out: nothing is ever submitted for it, and there are replies with
which it fails for its settings. -/
structure Barred (c : Connection) (k : Call) : Prop where
  unsubmitted : ∀ log v, (c.exchange k).Transcript log v → Unsubmitted log
  fails : ∃ log f, (c.exchange k).Transcript log (some (.error f)) ∧ f.OfSettings

/-- A sender who is not the signer is refused before anything is asked. -/
theorem barred_of_signer {k : Call} {message : TxMessage} {f : Failure}
    (hk : transaction? k = some (sender, message)) (hsigner : c.signerFor sender = .error f)
    (hf : f.OfSettings) : c.Barred k := by
  have hexchange : c.exchange k = .ends (.error f) := by
    rw [c.exchange_eq hk, transact, hsigner]
    rfl
  constructor
  · intro log v h
    rw [hexchange] at h
    cases h
    exact unsubmitted_nil
  · exact ⟨[], f, hexchange ▸ .ended _, hf⟩

/-- Without a signature a transaction comes as far as the account of its signer. -/
theorem barred_of_unsignable {k : Call} {message : TxMessage}
    (hk : transaction? k = some (sender, message)) (hsigner : c.signerFor sender = .ok w)
    (hpriced : c.network.parsedGasPrice = .ok price) (hunsignable :
      ¬(Fee.isDenom price.denom = true ∧ SignDoc.isChainId c.network.chainId = true)) :
    c.Barred k := by
  constructor
  · intro log v h bytes hsent
    obtain ⟨w', a, price', limit, tx, hsubmits⟩ := exchange_submits hk h hsent
    obtain rfl := Except.ok.inj (hsubmits.priced.symm.trans hpriced)
    obtain ⟨fault, hfault⟩ := signed_unsignable hunsignable w' a message limit
    cases hfault.symm.trans hsubmits.signed
  · -- a silent node finds an account with nothing in it
    have haccount : ((account k.operation sender).play silentReply).1 = .ok ⟨"", none, 0, 0⟩ := rfl
    obtain ⟨fault, hfails⟩ := play_unsignable hunsignable k.operation w ⟨"", none, 0, 0⟩ message
      fun tx => (do
        let reply ← send "Failed to broadcast transaction" (.commit (SignedTx.layout.encode tx))
        outcome k.operation reply : Exchange TxOutcome)
    have htransact : ((c.transact k.operation sender message).play silentReply).1 =
        .error (.configuration fault) := by
      rw [transact, hsigner, Exchange.ok_bind, Exchange.play_bind_ok _ haccount, hpriced]
      exact hfails
    have hplay : ((c.exchange k).play silentReply).1 = .error (.configuration fault) := by
      rw [c.exchange_eq hk]
      exact Exchange.play_bind_error _ htransact
    exact ⟨_, _, hplay ▸ (c.exchange k).transcript_play silentReply, .configuration fault⟩

theorem signerFor_eq (network : Network) (w : Wallet) (sender : String) :
    (⟨network, some w⟩ : Connection).signerFor sender = w.address >>= fun address =>
      if address = sender then .ok w else .error (.configuration (.senderMismatch sender address)) :=
  rfl

/-- The address of a wallet fails for the settings only. -/
theorem address_fails (w : Wallet) : Rollout.FailsAs Failure.OfSettings w.address := by
  rw [Wallet.address]
  split
  · exact failsAs_ok _
  · exact failsAs_error (.wallet _)

/-- Every transaction is barred on a network on which nothing can be signed. -/
theorem barred {network : Network} (hw : w.accountPrefix = network.accountPrefix)
    (hpriced : network.parsedGasPrice = .ok price) (hunsignable : ¬network.Signable price)
    {k : Call} (hk : k.transacts = true) : (⟨network, some w⟩ : Connection).Barred k := by
  obtain ⟨⟨sender, message⟩, htransaction⟩ : ∃ t, transaction? k = some t :=
    Option.isSome_iff_exists.mp ((transaction?_isSome k).trans hk)
  cases haddress : w.address with
  | error f =>
      refine barred_of_signer htransaction ?_ (address_fails w f haddress)
      rw [signerFor_eq, haddress]
      rfl
  | ok address =>
      by_cases hsender : address = sender
      · have hsigner : (⟨network, some w⟩ : Connection).signerFor sender = .ok w := by
          rw [signerFor_eq, haddress]
          exact if_pos hsender
        have hreadable : Bech32.isReadable network.accountPrefix = true :=
          hw ▸ w.exists_address_iff.mp ⟨address, haddress⟩
        exact barred_of_unsignable htransaction hsigner hpriced
          fun ⟨hdenom, hchain⟩ => hunsignable ⟨hreadable, hdenom, hchain⟩
      · exact barred_of_signer htransaction
          (signerFor_mismatch ⟨network, some w⟩ rfl haddress hsender) (.configuration _)

end Connection

namespace Settings

/-- Accepted settings have a gas price, and whether a wallet with their prefix can sign depends on
three texts and nothing else: it has an address exactly if the prefix is one of addresses, there are
fees exactly if they can be paid in the denomination, and transactions are signed exactly if a chain
can have the name. If all three fit, a transaction of the wallet fails for nothing but what the node
says; if one of them does not, every transaction is barred. -/
theorem signing_law (s : Settings) (w : Wallet) (haccepted : s.validate = .ok ())
    (hw : w.accountPrefix = s.network.accountPrefix) :
    ∃ price, s.network.parsedGasPrice = .ok price
      ∧ ((∃ address, w.address = .ok address) ↔
        Bech32.isReadable s.network.accountPrefix = true)
      ∧ (∀ limit, (∃ fee, Fee.ofPrice price limit = .ok fee) ↔ Fee.isDenom price.denom = true)
      ∧ (∀ number sequence fee messages timeoutHeight memo,
        (∃ tx, w.signTx number sequence s.network.chainId fee messages timeoutHeight memo = .ok tx) ↔
          SignDoc.isChainId s.network.chainId = true)
      ∧ (s.network.Signable price → ∃ sender, w.address = .ok sender
        ∧ ∀ k message, Connection.transaction? k = some (sender, message) →
          ∀ log f, ((⟨s.network, some w⟩ : Connection).exchange k).Transcript log
            (some (.error f)) → f.OfNode k.operation ∧ ¬f.OfSettings)
      ∧ (¬s.network.Signable price →
        ∀ k : Call, k.transacts = true → (⟨s.network, some w⟩ : Connection).Barred k) := by
  obtain ⟨price, hpriced⟩ := ((validate_eq_ok_iff s).mp haccepted).priced
  refine ⟨price, hpriced, hw ▸ w.exists_address_iff, Fee.exists_ofPrice_iff price,
    fun number sequence fee messages timeoutHeight memo =>
      w.exists_signTx_iff number sequence _ fee messages timeoutHeight memo, fun h => ?_,
    fun h k hk => Connection.barred hw hpriced h hk⟩
  obtain ⟨sender, haddress⟩ := w.exists_address_iff.mpr (hw ▸ h.readable)
  refine ⟨sender, haddress, fun k message hk log f hfails => ?_⟩
  have hsigner : (⟨s.network, some w⟩ : Connection).signerFor sender = .ok w := by
    rw [Connection.signerFor_eq, haddress]
    exact if_pos rfl
  have hsigns : (⟨s.network, some w⟩ : Connection).Signs sender w price :=
    ⟨hsigner, hpriced, h.denom, h.chain⟩
  have hnode : f.OfNode k.operation := (hsigns.exchange_fails hk).transcript hfails
  exact ⟨hnode, hnode.not_ofSettings⟩

/-- With a capital letter in the prefix settings are accepted, and there is not even an address. -/
theorem signing_law_of_capital :
    let n : Network := { Network.builtIn with accountPrefix := "Osmo" }
    let w : Wallet := ⟨⟨1, by decide, by decide⟩, "Osmo", by decide⟩
    (ofNetwork n).validate = .ok () ∧ w.accountPrefix = (ofNetwork n).network.accountPrefix
      ∧ (¬∃ address, w.address = .ok address)
      ∧ ∀ k : Call, k.transacts = true → (⟨n, some w⟩ : Connection).Barred k := by
  intro n w
  obtain ⟨price, hpriced, -⟩ := Connection.parsedGasPrice_builtIn
  have haccepted : (ofNetwork n).validate = .ok () :=
    ofNetwork_accepted (by decide) (by decide) (by decide) (by decide +kernel) hpriced
  have hcapital : ¬Bech32.isReadable n.accountPrefix = true := by decide
  obtain ⟨price, -, haddress, -, -, -, hbarred⟩ := signing_law (ofNetwork n) w haccepted rfl
  exact ⟨haccepted, rfl, fun h => hcapital (haddress.mp h), hbarred fun h => hcapital h.readable⟩

theorem not_isChainId_of_blanks : ¬SignDoc.isChainId "osmo test 5" = true := by
  have hchar : SignDoc.isChainIdChar ' ' = false := by
    rw [SignDoc.isChainIdChar, String.contains_char_eq]
    decide
  intro h
  have hall : ("osmo test 5".toList.all SignDoc.isChainIdChar) = true :=
    ((Bool.and_eq_true _ _).mp h).2
  rw [List.all_eq_true] at hall
  cases hchar.symm.trans (hall ' ' (by decide))

end Settings

/-- The settings of a network are accepted, and every transaction with them is barred. -/
structure Network.Futile (n : Network) : Prop where
  accepted : (Settings.ofNetwork n).validate = .ok ()
  barred : ∀ w : Wallet, w.accountPrefix = n.accountPrefix →
    ∀ k : Call, k.transacts = true → (⟨n, some w⟩ : Connection).Barred k

theorem Network.futile {n : Network} {price : GasPrice}
    (haccepted : (Settings.ofNetwork n).validate = .ok ()) (hpriced : n.parsedGasPrice = .ok price)
    (hunsignable : ¬n.Signable price) : n.Futile :=
  ⟨haccepted, fun _ hw _ hk => Connection.barred hw hpriced hunsignable hk⟩

namespace Settings

/-- Accepted settings with which nothing is ever signed: those with a capital letter in the prefix,
with a denomination of one character, and with blanks in the name of the chain. -/
theorem accepted_unsignable :
    Network.Futile { Network.builtIn with accountPrefix := "Osmo" }
      ∧ Network.Futile { Network.builtIn with gasPrice := "1u" }
      ∧ Network.Futile { Network.builtIn with chainId := "osmo test 5" } := by
  have hadjustment : ¬Network.builtIn.gasAdjustment ≤ 0.0 := by decide +kernel
  obtain ⟨price, hpriced, -⟩ := Connection.parsedGasPrice_builtIn
  refine ⟨?_, ?_, ?_⟩
  · refine Network.futile ?_ hpriced fun h => ?_
    · exact ofNetwork_accepted (by decide) (by decide) (by decide) hadjustment hpriced
    · exact absurd h.readable (by decide)
  · obtain ⟨price, hpriced, hshort⟩ :
        ∃ price, Network.parsedGasPrice { Network.builtIn with gasPrice := "1u" } = .ok price
          ∧ (!Fee.isDenom price.denom) = true := exists_ok_of_any (by decide +kernel)
    refine Network.futile ?_ hpriced fun h => ?_
    · exact ofNetwork_accepted (by decide) (by decide) (by decide) hadjustment hpriced
    · simp [h.denom] at hshort
  · refine Network.futile ?_ hpriced fun h => ?_
    · exact ofNetwork_accepted (by decide) (by decide) (by decide) hadjustment hpriced
    · exact not_isChainId_of_blanks h.chain

end Settings

end Rollout
