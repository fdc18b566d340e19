import Rollout.Proofs.Chain.Requests
import Rollout.Proofs.Wire.Messages

/-!
# What a submitted transaction says

A call that changes the chain submits one message, and it is the message of the call: whoever reads
the bytes that are sent finds it there, alone in its body, with the sequence number of the account
that the node has told and a fee of one coin for the gas limit that was settled on. If the network
sets no limit, a transaction with the same body and the same signer was simulated before, so what
is simulated is what is sent (`call_says`).

A transcript in which something is submitted is taken apart into its rounds first
(`exchange_submits`); the rest is reading back what was written.
-/

namespace Rollout

open Wire

/-! ## Reading a transaction -/

/-- Bytes that are read as a signed transaction. -/
structure ReadsAsTx (bytes : Bytes) (tx : SignedTx) (body : TxBody) (authInfo : AuthInfo) :
    Prop where
  whole : SignedTx.layout.decode? bytes = some tx
  body : TxBody.layout.decode? tx.body = some body
  authInfo : AuthInfo.layout.decode? tx.authInfo = some authInfo

/-- A body that holds a message and nothing else. -/
structure TxBody.Holds (body : TxBody) (message : TxMessage) : Prop where
  message : ∃ typed, body.messages = [typed] ∧ typed.typeUrl = message.typeUrl
    ∧ TxMessage.ofTyped? typed = some message
  memo : body.memo = ""
  timeoutHeight : body.timeoutHeight = 0

/-- An authorisation of one signer, with a fee of one coin at a price for a gas limit. -/
structure AuthInfo.Holds (authInfo : AuthInfo) (key : PublicKey) (sequence : UInt64)
    (price : GasPrice) (limit : UInt64) : Prop where
  signer : authInfo.signers = [⟨some key.typed, some .direct, sequence⟩]
  fee : authInfo.fee = some ⟨[.ofCoin ⟨price.denom, price.fee limit⟩], limit⟩

/-! ## The rounds of a transaction -/

namespace Connection

/-- What stands behind a submitted transaction: its rounds, and how it was signed. -/
structure Submits (c : Connection) (operation : Operation) (sender : String) (message : TxMessage)
    (log : List NodeEvent) (bytes : Bytes) (w : Wallet) (account : Account) (price : GasPrice)
    (limit : UInt64) (tx : SignedTx) : Prop where
  priced : c.network.parsedGasPrice = .ok price
  signed : c.signed w account price message limit = .ok tx
  sent : bytes = SignedTx.layout.encode tx
  rounds : ∃ reply settling after,
    log = [.asked (accountRequest sender), .told (accountRequest sender) reply] ++
        (settling ++ .asked (.commit bytes) :: after)
      ∧ valueIn operation AccountQuery.path reply >>= accountIn operation sender = .ok account
      ∧ c.Settles operation w account price message settling limit
      ∧ ∀ r, .asked r ∉ after

/-- A transcript in which a transaction is submitted has come through all rounds before. -/
theorem exchange_submits {c : Connection} {k : Call} {sender : String} {message : TxMessage}
    {log : List NodeEvent} (hk : transaction? k = some (sender, message)) {bytes : Bytes}
    {v : Option (Fallible k.Answer)} (h : (c.exchange k).Transcript log v)
    (hsent : .asked (.commit bytes) ∈ log) :
    ∃ w account price limit tx,
      c.Submits k.operation sender message log bytes w account price limit tx := by
  have hasking := c.asking_exchange k log v h
  obtain ⟨before, after, rfl⟩ := List.append_of_mem hsent
  have hlast (r : NodeRequest) : .asked r ∉ after := fun hr => by
    obtain ⟨mid, rest, rfl⟩ := List.append_of_mem hr
    have hnext := hasking (before ++ .asked (.commit bytes) :: mid) r rest (by simp)
    exact hnext.unsubmitted bytes (by simp)
  have hnext := hasking before _ after rfl
  generalize hr : NodeRequest.commit bytes = r at hnext
  cases hnext with
  | reading hread => cases (transaction?_of_reads hread).symm.trans hk
  | account => cases hr
  | simulation => cases hr
  | @submission t reply settling limit tx hfound hsettles htx =>
      obtain rfl := NodeRequest.commit.inj hr
      obtain ⟨rfl, rfl⟩ := Prod.mk.inj (Option.some.inj (hk.symm.trans hfound.message))
      exact ⟨t.wallet, t.account, t.price, limit, tx, hfound.priced, htx, rfl, reply, settling, after,
        List.append_assoc _ _ _, hfound.account, hsettles, hlast⟩

/-! ## Reading what was written -/

/-- The body of a message alone. -/
def bodyOf (message : TxMessage) : TxBody := ⟨[message.typed], "", 0⟩

/-- The authorisation of one signer, with the fee for a gas limit. -/
def authInfoOf (key : PublicKey) (sequence : UInt64) (price : GasPrice) (limit : UInt64) :
    AuthInfo :=
  ⟨[⟨some key.typed, some .direct, sequence⟩],
    some ⟨[.ofCoin ⟨price.denom, price.fee limit⟩], limit⟩⟩

/-- What is signed for a message: its body is the same whatever the fee. -/
theorem signed_ok {c : Connection} {w : Wallet} {a : Account} {price : GasPrice}
    {message : TxMessage} {limit : UInt64} {tx : SignedTx}
    (h : c.signed w a price message limit = .ok tx) :
    tx.body = TxBody.layout.encode (bodyOf message)
      ∧ tx.authInfo = AuthInfo.layout.encode (authInfoOf w.publicKey a.sequence price limit) := by
  rw [signed] at h
  obtain ⟨fee, hfee, hsign⟩ := bind_eq_ok_iff.mp h
  rw [Fee.ofPrice] at hfee
  split at hfee
  · obtain rfl := Except.ok.inj hfee
    rw [Wallet.signTx] at hsign
    split at hsign
    · obtain rfl := Except.ok.inj hsign
      exact ⟨rfl, rfl⟩
    · cases hsign
  · cases hfee

/-- The bytes of a transaction are read as what was written into it. -/
theorem reads_signed {c : Connection} {w : Wallet} {a : Account} {price : GasPrice}
    {message : TxMessage} {limit : UInt64} {tx : SignedTx}
    (h : c.signed w a price message limit = .ok tx)
    (hlength : (SignedTx.layout.encode tx).length < UInt64.size) :
    ∃ body authInfo, ReadsAsTx (SignedTx.layout.encode tx) tx body authInfo
      ∧ body.Holds message ∧ authInfo.Holds w.publicKey a.sequence price limit := by
  obtain ⟨hbody, hauth⟩ := signed_ok h
  -- each part is within the whole, so that its bytes can be counted too
  have hbodyLength : tx.body.length ≤ (SignedTx.layout.encode tx).length :=
    Layout.length_le_of_bytes (.head _) tx
  have hauthLength : tx.authInfo.length ≤ (SignedTx.layout.encode tx).length :=
    Layout.length_le_of_bytes (.tail _ (.head _)) tx
  have htypedLength : (TypedValue.layout.encode message.typed).length ≤ tx.body.length := by
    rw [hbody]
    exact Layout.length_le_of_messages (.head _) List.mem_cons_self
  have hmessageLength :
      message.typed.value.length ≤ (TypedValue.layout.encode message.typed).length :=
    Layout.length_le_of_bytes (.tail _ (.head _)) message.typed
  change message.bytes.length ≤ _ at hmessageLength
  have hmessage : TxMessage.ofTyped? message.typed = some message :=
    TxMessage.ofTyped?_typed (by omega)
  refine ⟨bodyOf message, authInfoOf w.publicKey a.sequence price limit,
    ⟨SignedTx.exact.decode?_encode hlength, ?_, ?_⟩, ⟨⟨_, rfl, rfl, hmessage⟩, rfl, rfl⟩, ⟨rfl, rfl⟩⟩
  · rw [hbody] at hbodyLength ⊢
    exact TxBody.exact.decode?_encode (by omega)
  · rw [hauth] at hauthLength ⊢
    exact AuthInfo.exact.decode?_encode (by omega)

/-- A simulation of what a transaction says: with the same body and the same signer, only that its
fee is for the gas limit of a simulation. -/
def Rehearses (data : Bytes) (tx : SignedTx) (key : PublicKey) (sequence : UInt64)
    (price : GasPrice) : Prop :=
  ∃ query tx' body authInfo, SimulationQuery.layout.decode? data = some query
    ∧ ReadsAsTx query.tx tx' body authInfo ∧ tx'.body = tx.body
    ∧ authInfo.Holds key sequence price simulationGasLimit

theorem rehearses_of_signed {c : Connection} {w : Wallet} {a : Account} {price : GasPrice}
    {message : TxMessage} {limit : UInt64} {tx tx' : SignedTx}
    (h : c.signed w a price message limit = .ok tx)
    (h' : c.signed w a price message simulationGasLimit = .ok tx')
    (hcounted : (SimulationQuery.layout.encode ⟨SignedTx.layout.encode tx'⟩).length < UInt64.size) :
    Rehearses (SimulationQuery.layout.encode ⟨SignedTx.layout.encode tx'⟩) tx w.publicKey a.sequence
      price := by
  have hlength : (SignedTx.layout.encode tx').length ≤
      (SimulationQuery.layout.encode ⟨SignedTx.layout.encode tx'⟩).length :=
    Layout.length_le_of_bytes (l := SimulationQuery.layout) (.head _) ⟨SignedTx.layout.encode tx'⟩
  obtain ⟨body, authInfo, hreads, -, hholds⟩ := reads_signed h' (by omega)
  refine ⟨_, tx', body, authInfo, SimulationQuery.exact.decode?_encode hcounted, hreads, ?_, hholds⟩
  rw [(signed_ok h).1, (signed_ok h').1]

/-- What a transaction says that has been submitted for a message. On the wire the count of bytes is
a word of 64 bits, so bytes are read back if they can be counted, as all bytes in a memory can. -/
structure Says (c : Connection) (operation : Operation) (sender : String) (message : TxMessage)
    (log : List NodeEvent) (bytes : Bytes) (w : Wallet) (account : Account) (price : GasPrice)
    (limit : UInt64) (tx : SignedTx) : Prop
    extends c.Submits operation sender message log bytes w account price limit tx where
  reads : bytes.length < UInt64.size → ∃ body authInfo, ReadsAsTx bytes tx body authInfo
    ∧ body.Holds message ∧ authInfo.Holds w.publicKey account.sequence price limit
  rehearsed : ∀ data, .asked (.lookup SimulationQuery.path data) ∈ log →
    data.length < UInt64.size → Rehearses data tx w.publicKey account.sequence price

section Saying

variable {c : Connection} {operation : Operation} {sender : String} {message : TxMessage}
  {log : List NodeEvent} {bytes data : Bytes} {w : Wallet} {account : Account} {price : GasPrice}
  {limit : UInt64} {tx : SignedTx}

/-- What is simulated before a transaction is submitted is the same signed with another fee. -/
theorem Submits.simulated
    (h : c.Submits operation sender message log bytes w account price limit tx)
    (hasked : .asked (.lookup SimulationQuery.path data) ∈ log) :
    ∃ tx', data = SimulationQuery.layout.encode ⟨SignedTx.layout.encode tx'⟩
      ∧ c.signed w account price message simulationGasLimit = .ok tx' := by
  obtain ⟨reply, settling, after, rfl, -, hsettles, hlast⟩ := h.rounds
  have hpath : SimulationQuery.path ≠ AccountQuery.path := by decide
  have hfirst : NodeEvent.asked (.lookup SimulationQuery.path data) ∉
      [.asked (accountRequest sender), .told (accountRequest sender) reply] := by
    simp [accountRequest, hpath]
  replace hasked := (List.mem_append.mp hasked).resolve_left hfirst
  rcases List.mem_append.mp hasked with hsettling | hafter
  · cases hsettles with
    | fixed => cases hsettling
    | @simulated tx' _ _ _ htx _ =>
        have hrequest : NodeRequest.lookup SimulationQuery.path data = simulationRequest tx' := by
          simpa using hsettling
        exact ⟨tx', (NodeRequest.lookup.inj hrequest).2, htx⟩
  · rcases List.mem_cons.mp hafter with hcommit | hafter
    · cases hcommit
    · exact absurd hafter (hlast _)

theorem Submits.says (h : c.Submits operation sender message log bytes w account price limit tx) :
    c.Says operation sender message log bytes w account price limit tx := by
  refine ⟨h, fun hlength => ?_, fun data hasked hlength => ?_⟩
  · have hsent := h.sent
    subst hsent
    exact reads_signed h.signed hlength
  · obtain ⟨tx', rfl, htx'⟩ := h.simulated hasked
    exact rehearses_of_signed h.signed htx' hlength

end Saying

/-- Whatever is on record as submitted for a call says what the call is about. -/
def Conveys (c : Connection) (k : Call) (log : List NodeEvent) : Prop :=
  ∀ bytes, .asked (.commit bytes) ∈ log →
    ∃ sender message w account price limit tx, transaction? k = some (sender, message)
      ∧ c.Says k.operation sender message log bytes w account price limit tx

theorem conveys_exchange {c : Connection} {k : Call} {log : List NodeEvent}
    {v : Option (Fallible k.Answer)} (h : (c.exchange k).Transcript log v) : c.Conveys k log := by
  intro bytes hsent
  cases hk : transaction? k with
  | some transaction =>
      obtain ⟨sender, message⟩ := transaction
      obtain ⟨w, account, price, limit, tx, hsubmits⟩ := exchange_submits hk h hsent
      exact ⟨sender, message, w, account, price, limit, tx, rfl, hsubmits.says⟩
  | none =>
      have hreads : k.transacts = false := by rw [← transaction?_isSome, hk]; rfl
      exact absurd hsent (((c.requested h).reads hreads).2 bytes)

/-- At every node and whenever a call is cut off, what the call submits says what it is about: the
bytes are read as a transaction of the one message of the call, signed for the account that the node
has told, and so is what was simulated before. -/
theorem call_says (c : Connection) (k : Call) (n : Node σ) (now : Nat) (w : Recorded σ) :
    ((c.client n.recorded).call k now w).Meets
      (fun q => ∃ log, q.1 = w.1 ++ log ∧ c.Conveys k log)
      fun _ q => ∃ log, q.1 = w.1 ++ log ∧ c.Conveys k log := by
  refine ((c.exchange k).hold_recorded n now w).weaken ?_ ?_
  · rintro q ⟨log, hlog, h⟩
    exact ⟨log, hlog, conveys_exchange h⟩
  · rintro r q ⟨log, hlog, h⟩
    exact ⟨log, hlog, conveys_exchange h⟩

end Connection

end Rollout
