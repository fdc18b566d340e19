import Rollout.Proofs.Chain.Attempts
import Rollout.Proofs.Schema.Reading

/-!
# Nodes that answer at once

At a node that answers at once an exchange is played through: its result and its transcript are
functions of the replies (`Exchange.play`), and a call that fails in a way that may pass is made as
often as the policy allows, always with the same record (`perform_prompt`).

A silent node confirms each transaction, but reports no events of it. An upload or an instantiation
that can be signed is submitted and confirmed there, and the client is left without an answer
(`play_exchange`).
-/

namespace Rollout

/-- A node that answers at once. -/
def Node.prompt (reply : (r : NodeRequest) → Option r.Reply) : Node σ := ⟨fun r => return reply r⟩

namespace Exchange

/-- How an exchange ends with the given replies, and its transcript. -/
def play (reply : (r : NodeRequest) → Option r.Reply) : Exchange α → Fallible α × List NodeEvent
  | ends result => (result, [])
  | asks r next =>
    let (result, log) := (next (reply r)).play reply
    (result, .asked r :: .told r (reply r) :: log)

variable (reply : (r : NodeRequest) → Option r.Reply)

theorem hold_prompt (now : Nat) :
    ∀ (e : Exchange α) (w : Recorded σ), e.hold (Node.prompt reply).recorded now w =
      .ends (e.play reply).1 (w.1 ++ (e.play reply).2, w.2)
  | ends result, w => by
      rw [play, List.append_nil]
      rfl
  | asks r next, w => by
      have hstep : (asks r next).hold (Node.prompt reply).recorded now w =
          (next (reply r)).hold (Node.prompt reply).recorded now
            (w.1 ++ [NodeEvent.asked r] ++ [NodeEvent.told r (reply r)], w.2) := rfl
      rw [hstep, hold_prompt now (next (reply r)), play]
      simp only [List.append_assoc, List.cons_append, List.nil_append]

theorem ok_bind (a : α) (next : α → Exchange β) :
    (liftM (.ok a : Fallible α) : Exchange α) >>= next = next a := rfl

/-- Parts that end with a value are played one after the other. -/
theorem play_bind_of {next : α → Exchange β} {a : α} {r : Fallible β} {log' : List NodeEvent}
    (hnext : (next a).play reply = (r, log')) :
    ∀ {e : Exchange α} {log : List NodeEvent}, e.play reply = (.ok a, log) →
      (e >>= next).play reply = (r, log ++ log')
  | ends result, log, he => by
      obtain ⟨rfl, rfl⟩ := Prod.mk.inj he
      exact hnext
  | asks q rest, log, he => by
      rw [play] at he
      obtain ⟨hresult, rfl⟩ := Prod.mk.inj he
      have hrest := play_bind_of hnext (e := rest (reply q)) (Prod.ext hresult rfl)
      have hstep : (asks q rest >>= next).play reply =
          (((rest (reply q) >>= next).play reply).1,
            .asked q :: .told q (reply q) :: ((rest (reply q) >>= next).play reply).2) := rfl
      rw [hstep, hrest]
      rfl

end Exchange

/-- What a silent node says of a transaction: it is confirmed, and there are no events. -/
def silentCommit : CommitReply := ⟨⟨0, ""⟩, ⟨0, "", 0, 0, []⟩, [], 0⟩

/-- What comes of a transaction at a silent node. -/
def silentOutcome : TxOutcome := ⟨Text.hexUpper [], 0, 0, 0, []⟩

/-- The replies of a silent node: it finds an empty account, and that transactions take no gas. -/
def silentReply : (r : NodeRequest) → Option r.Reply
  | .lookup .. => some ⟨0, "", [0x0A, 0]⟩
  | .commit .. => some silentCommit
  | .latestBlock | .faucet .. => none

namespace Connection

/-- A connection signs for the address of its wallet. -/
theorem signerFor_own (c : Connection) {w : Wallet} (hw : c.wallet = some w)
    (hreadable : Bech32.isReadable w.accountPrefix = true) : ∃ sender, c.signerFor sender = .ok w := by
  obtain ⟨sender, hencoded⟩ : ∃ sender, Bech32.encode? w.accountPrefix w.account = some sender :=
    ⟨_, if_pos hreadable⟩
  have haddress : w.address = .ok sender := by rw [Wallet.address, hencoded]
  refine ⟨sender, ?_⟩
  rw [signerFor, requireWallet, hw]
  change (w.address >>= fun address => if address = sender then .ok w
    else .error (.configuration (.senderMismatch sender address))) = _
  rw [haddress]
  exact if_pos rfl

theorem isChainId_builtIn : SignDoc.isChainId Network.builtIn.chainId = true := by
  have hchar : SignDoc.isChainIdChar = fun c => c.isAlphanum || decide (c ∈ "-_.".toList) :=
    funext fun c => by rw [SignDoc.isChainIdChar, String.contains_char_eq]
  rw [SignDoc.isChainId, hchar]
  decide +kernel

theorem parsedGasPrice_builtIn :
    ∃ price, Network.builtIn.parsedGasPrice = .ok price ∧ Fee.isDenom price.denom = true :=
  exists_ok_of_any (by decide +kernel)

/-- A connection can sign transactions of a sender: it has a wallet with that address, and the
network has a price that can be paid and a name that can be signed. -/
structure Signs (c : Connection) (sender : String) (w : Wallet) (price : GasPrice) : Prop where
  signer : c.signerFor sender = .ok w
  priced : c.network.parsedGasPrice = .ok price
  denom : Fee.isDenom price.denom = true
  chain : SignDoc.isChainId c.network.chainId = true

/-- On the network that is built in, a readable wallet signs for its own address. -/
theorem signs_builtIn {w : Wallet} (hreadable : Bech32.isReadable w.accountPrefix = true) :
    ∃ sender price, Signs ⟨.builtIn, some w⟩ sender w price := by
  obtain ⟨sender, hsigner⟩ := signerFor_own ⟨.builtIn, some w⟩ rfl hreadable
  obtain ⟨price, hprice, hdenom⟩ := parsedGasPrice_builtIn
  exact ⟨sender, price, hsigner, hprice, hdenom, isChainId_builtIn⟩

variable {c : Connection} {sender : String} {w : Wallet} {price : GasPrice}

theorem Signs.signed (h : c.Signs sender w price) (a : Account) (message : TxMessage)
    (limit : UInt64) : ∃ tx, c.signed w a price message limit = .ok tx := by
  obtain ⟨fee, hfee⟩ : ∃ fee, Fee.ofPrice price limit = .ok fee := ⟨_, if_pos h.denom⟩
  obtain ⟨tx, htx⟩ : ∃ tx, w.signTx a.number a.sequence c.network.chainId fee [message.typed]
      none none = .ok tx := ⟨_, if_pos h.chain⟩
  refine ⟨tx, ?_⟩
  rw [Connection.signed, hfee]
  exact htx

theorem Signs.play_gasLimit (h : c.Signs sender w price) (operation : Operation) (a : Account)
    (message : TxMessage) :
    ∃ limit log, (c.gasLimit operation w a price message).play silentReply = (.ok limit, log) := by
  rw [gasLimit]
  cases c.network.gasLimit with
  | some limit => exact ⟨limit, [], rfl⟩
  | none =>
      obtain ⟨tx, htx⟩ := h.signed a message simulationGasLimit
      rw [htx]
      exact ⟨adjustedGasLimit c.network 0, _, rfl⟩

/-- At a silent node, a transaction that can be signed is submitted and confirmed. -/
theorem Signs.play_transact (h : c.Signs sender w price) (operation : Operation)
    (message : TxMessage) :
    ∃ before tx, (c.transact operation sender message).play silentReply =
      (.ok silentOutcome,
        before ++ [.asked (.commit tx), .told (.commit tx) (some silentCommit)]) := by
  -- the node finds an account with nothing in it
  let a : Account := ⟨"", none, 0, 0⟩
  obtain ⟨found, haccount⟩ : ∃ found, (account operation sender).play silentReply = (.ok a, found) :=
    ⟨_, rfl⟩
  obtain ⟨limit, simulated, hlimit⟩ := h.play_gasLimit operation a message
  obtain ⟨tx, htx⟩ := h.signed a message limit
  refine ⟨found ++ simulated, SignedTx.layout.encode tx, ?_⟩
  rw [transact, h.signer, Exchange.ok_bind, List.append_assoc]
  refine Exchange.play_bind_of _ ?_ haccount
  rw [h.priced, Exchange.ok_bind]
  refine Exchange.play_bind_of _ ?_ hlimit
  rw [htx, Exchange.ok_bind]
  rfl

/-- A transaction is submitted and confirmed at a silent node even if its outcome cannot be read. -/
theorem Signs.play_reading (h : c.Signs sender w price) (operation : Operation)
    (message : TxMessage) (read : TxOutcome → Fallible α) {f : Failure}
    (hread : read silentOutcome = .error f) :
    ∃ before tx,
      (c.transact operation sender message >>= fun o => liftM (read o)).play silentReply =
        (.error f, before ++ [.asked (.commit tx), .told (.commit tx) (some silentCommit)]) := by
  obtain ⟨before, tx, hplay⟩ := h.play_transact operation message
  refine ⟨before, tx, ?_⟩
  rw [← List.append_nil (before ++ _)]
  refine Exchange.play_bind_of silentReply ?_ hplay
  rw [hread]
  rfl

/-- An upload or an instantiation that can be signed is submitted and confirmed at a silent
node, and then fails in a way that counts as one of the connection. -/
theorem Signs.play_exchange (h : c.Signs sender w price) {k : Call}
    (hk : (∃ wasm, k = .upload sender wasm)
      ∨ ∃ codeId msg label funds, k = .instantiate sender codeId msg label funds) :
    ∃ f before tx, f.retryable = true ∧ (c.exchange k).play silentReply =
      (.error f, before ++ [.asked (.commit tx), .told (.commit tx) (some silentCommit)]) := by
  rcases hk with ⟨wasm, rfl⟩ | ⟨codeId, msg, label, funds, rfl⟩
  · obtain ⟨f, hread, hretry⟩ :
        ∃ f, storedCode silentOutcome = .error f ∧ f.retryable = true := ⟨_, rfl, rfl⟩
    obtain ⟨before, tx, hplay⟩ :=
      h.play_reading .upload (.storeCode ⟨sender, wasm⟩) storedCode hread
    exact ⟨f, before, tx, hretry, hplay⟩
  · obtain ⟨f, hread, hretry⟩ :
        ∃ f, instantiatedContract silentOutcome = .error f ∧ f.retryable = true := ⟨_, rfl, rfl⟩
    obtain ⟨before, tx, hplay⟩ := h.play_reading .instantiate
      (.instantiate ⟨sender, "", codeId, label, TxMessage.payload msg, funds.map .ofCoin⟩)
      instantiatedContract hread
    exact ⟨f, before, tx, hretry, hplay⟩

end Connection

namespace Deployment

variable (d : Deployment σ) (c : Connection) (reply : (r : NodeRequest) → Option r.Reply)

theorem attempt_prompt {k : Call} {r : Fallible k.Answer} {log : List NodeEvent}
    (hplay : (c.exchange k).play reply = (r, log)) (now : Nat) (p : Progress (Recorded σ)) :
    ((d.through c (Node.prompt reply)).attempt k).result now p =
      ⟨some r, now, { p with world := (p.world.1 ++ log, p.world.2) }⟩ := by
  have hhold := (c.exchange k).hold_prompt reply now p.world
  rw [hplay] at hhold
  have hcall : onWorld ((d.through c (Node.prompt reply)).client.call k) now p =
      .ends r { p with world := (p.world.1 ++ log, p.world.2) } := by
    refine Eq.trans ?_ (congrArg (Course.mapState fun w => ({ p with world := w } : Progress _)) hhold)
    rfl
  have hwithin : ((onWorld ((d.through c (Node.prompt reply)).client.call k)).within
      (d.through c (Node.prompt reply)).policy.operationTimeoutMs).result now p =
        ⟨some (some r), now, { p with world := (p.world.1 ++ log, p.world.2) }⟩ := by
    rw [Timed.result, Timed.within, hcall]
    rfl
  rw [attempt, Timed.result_bind_of hwithin]
  rfl

/-- At a node that answers at once, a call that fails for good is made once. -/
theorem call_prompt {k : Call} {f : Failure} {log : List NodeEvent}
    (hplay : (c.exchange k).play reply = (.error f, log)) (hfinal : f.retryable = false) (now : Nat)
    (p : Progress (Recorded σ)) :
    ((d.through c (Node.prompt reply)).call k).result now p =
      ⟨some (.error f), now, { p with world := (p.world.1 ++ log, p.world.2) }⟩ := by
  rw [call]
  cases (d.through c (Node.prompt reply)).policy.retry.maxRetries.toNat with
  | zero => exact d.attempt_prompt c reply hplay now p
  | succ left =>
      rw [perform, Timed.result_bind_of (d.attempt_prompt c reply hplay now p)]
      simp only [hfinal, Bool.false_eq_true, if_false, Timed.result_pure]

/-- At a node that answers at once, a call that fails in a way that may pass is made as often as the
policy allows, always with the same record. -/
theorem perform_prompt {k : Call} {f : Failure} {log : List NodeEvent}
    (hplay : (c.exchange k).play reply = (.error f, log)) (hretry : f.retryable = true) :
    ∀ (left failed now : Nat) (p : Progress (Recorded σ)),
      ∃ t q, ((d.through c (Node.prompt reply)).perform k failed left).result now p =
          ⟨some (.error f), t, q⟩
        ∧ q.world.1 = p.world.1 ++ (List.replicate (left + 1) log).flatten
  | 0, _, now, p => by
      refine ⟨now, _, d.attempt_prompt c reply hplay now p, ?_⟩
      simp
  | left + 1, failed, now, p => by
      obtain ⟨t, q, hrest, hlog⟩ := perform_prompt hplay hretry left (failed + 1)
        (now + min (d.policy.retry.backoff (failed + 1)) Timed.longest)
        { p with world := (p.world.1 ++ log, p.world.2) }
      refine ⟨t, q, ?_, ?_⟩
      · rw [perform, Timed.result_bind_of (d.attempt_prompt c reply hplay now p)]
        simp only [hretry, if_true]
        exact (Timed.result_bind_of (Timed.result_wait _ _ _)).trans hrest
      · rw [hlog, List.append_assoc, List.replicate_succ (n := left + 1), List.flatten_cons]

end Deployment

end Rollout
