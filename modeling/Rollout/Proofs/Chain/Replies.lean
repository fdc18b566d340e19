import Rollout.Proofs.Chain.Transaction
import Rollout.Proofs.Schema.Reading

/-!
# What is read in a reply

An exchange of a call is built from single rounds: one request, and what is read in the reply
to it. This module names what is read in each round, so that the rest of the theory speaks of
requests and replies and no longer of how an exchange is written. A call that changes the
chain asks for the account of its sender, for the gas if the network does not set it, and
submits (`exchange_eq`); a call that only reads asks once (`exchange_reads`).

What fails in a round of a transaction fails for what the node says (`Failure.OfNode`): it is a
rejection of the operation, or else a failure of the connection.
-/

namespace Rollout

/-! ## Results that fail in some ways only -/

/-- A failure, if there is one, has a property. -/
def FailsAs (P : Failure → Prop) (r : Fallible α) : Prop := ∀ f, r = .error f → P f

section FailsAs

variable {P Q : Failure → Prop}

theorem failsAs_ok (a : α) : FailsAs P (.ok a : Fallible α) := nofun

theorem failsAs_error {f : Failure} (h : P f) : FailsAs P (.error f : Fallible α) := by
  rintro _ ⟨⟩
  exact h

theorem FailsAs.bind {r : Fallible α} {next : α → Fallible β} (h : FailsAs P r)
    (hnext : ∀ a, FailsAs P (next a)) : FailsAs P (r >>= next) := by
  cases r with
  | ok a => exact hnext a
  | error f => exact failsAs_error (h f rfl)

theorem FailsAs.mono {r : Fallible α} (h : FailsAs P r) (hPQ : ∀ f, P f → Q f) : FailsAs Q r :=
  fun f hf => hPQ f (h f hf)

end FailsAs

/-- A failure of an operation that comes from the node: it rejects the operation, or what it says
cannot be used. -/
inductive Failure.OfNode (operation : Operation) : Failure → Prop
  | rejected (log : String) : OfNode operation (.rejected operation log)
  | connection (reason : String) : OfNode operation (.connection reason)

namespace Connection

/-- The bytes in the reply to a lookup. -/
def valueIn (operation : Operation) (path : String) : Option LookupReply → Fallible Bytes
  | some reply =>
    if reply.code = 0 then .ok reply.value else .error (.rejected operation reply.log)
  | none => .error (broken ("ABCI query " ++ path ++ " failed"))

/-- The account in the bytes that were found for an address. -/
def accountIn (operation : Operation) (address : String) (bytes : Bytes) : Fallible Account := do
  let found ← readAs AccountFound.layout "account response" bytes
  match found.account with
  | some typed => readAs Account.layout "BaseAccount" typed.value
  | none => .error (.rejected operation ("account " ++ address ++ " not found"))

/-- The gas in the bytes that a simulation gave. -/
def gasIn (operation : Operation) (bytes : Bytes) : Fallible UInt64 := do
  let found ← readAs SimulationFound.layout "simulate response" bytes
  match found.gas with
  | some gas => .ok gas.used
  | none => .error (.rejected operation "simulation returned no gas info")

theorem lookup_eq (operation : Operation) (path : String) (data : Bytes) :
    lookup operation path data =
      .asks (.lookup path data) fun reply => .ends (valueIn operation path reply) := by
  refine congrArg (Exchange.asks (.lookup path data)) (funext fun reply => ?_)
  cases reply with
  | none => rfl
  | some reply =>
      rw [valueIn]
      by_cases h : reply.code = 0
      · rw [if_pos h]
        exact if_pos h
      · rw [if_neg h]
        exact if_neg h

/-- A lookup and what is read in what it found. -/
theorem lookup_bind (operation : Operation) (path : String) (data : Bytes)
    (read : Bytes → Fallible α) :
    (do read (← lookup operation path data) : Exchange α) =
      .asks (.lookup path data) fun reply => .ends (valueIn operation path reply >>= read) := by
  rw [lookup_eq]
  exact congrArg (Exchange.asks (.lookup path data)) (funext fun reply =>
    Exchange.ends_bind (valueIn operation path reply) read)

theorem account_eq (operation : Operation) (address : String) :
    account operation address =
      .asks (.lookup AccountQuery.path (AccountQuery.layout.encode ⟨address⟩)) fun reply =>
        .ends (valueIn operation AccountQuery.path reply >>= accountIn operation address) := by
  refine Eq.trans ?_ (lookup_bind operation AccountQuery.path _ (accountIn operation address))
  refine congrArg (lookup operation AccountQuery.path _ >>= ·) (funext fun bytes => ?_)
  rw [accountIn]
  cases readAs AccountFound.layout "account response" bytes with
  | error f => rfl
  | ok found =>
      obtain ⟨_ | typed⟩ := found
      · rfl
      · rfl

theorem simulate_eq (operation : Operation) (tx : SignedTx) :
    simulate operation tx =
      .asks (.lookup SimulationQuery.path
          (SimulationQuery.layout.encode ⟨SignedTx.layout.encode tx⟩)) fun reply =>
        .ends (valueIn operation SimulationQuery.path reply >>= gasIn operation) := by
  refine Eq.trans ?_ (lookup_bind operation SimulationQuery.path _ (gasIn operation))
  refine congrArg (lookup operation SimulationQuery.path _ >>= ·) (funext fun bytes => ?_)
  rw [gasIn]
  cases readAs SimulationFound.layout "simulate response" bytes with
  | error f => rfl
  | ok found =>
      obtain ⟨_ | gas⟩ := found
      · rfl
      · rfl

/-! ## What is wrong with a reply -/

section Failing

open Wire

variable (operation : Operation)

theorem readAs_fails (l : Layout α) (what : String) (bytes : Bytes) :
    FailsAs (Failure.OfNode operation) (readAs l what bytes) := by
  rw [readAs]
  cases l.decode? bytes with
  | some a => exact failsAs_ok a
  | none => exact failsAs_error (.connection _)

theorem valueIn_fails (path : String) (reply : Option LookupReply) :
    FailsAs (Failure.OfNode operation) (valueIn operation path reply) := by
  cases reply with
  | none => exact failsAs_error (.connection _)
  | some reply =>
      rw [valueIn]
      split
      · exact failsAs_ok _
      · exact failsAs_error (.rejected _)

theorem accountIn_fails (address : String) (bytes : Bytes) :
    FailsAs (Failure.OfNode operation) (accountIn operation address bytes) := by
  refine (readAs_fails operation _ _ bytes).bind fun found => ?_
  split
  · exact readAs_fails operation _ _ _
  · exact failsAs_error (.rejected _)

theorem gasIn_fails (bytes : Bytes) :
    FailsAs (Failure.OfNode operation) (gasIn operation bytes) := by
  refine (readAs_fails operation _ _ bytes).bind fun found => ?_
  split
  · exact failsAs_ok _
  · exact failsAs_error (.rejected _)

theorem committed_fails (reply : Option CommitReply) :
    FailsAs (Failure.OfNode operation) (committed operation reply) := by
  cases reply with
  | none => exact failsAs_error (.connection _)
  | some reply =>
      rw [committed, outcome]
      split
      · exact failsAs_error (.rejected _)
      · split
        · exact failsAs_error (.rejected _)
        · exact failsAs_ok _

/-- An outcome that cannot be read is a failure of the connection. -/
theorem reading_fails (k : Call) (o : TxOutcome) :
    FailsAs (Failure.OfNode k.operation) (reading k o) := by
  cases k with
  | upload =>
      rw [reading, storedCode]
      split
      · exact failsAs_error (.connection _)
      · split
        · exact failsAs_ok _
        · exact failsAs_error (.connection _)
  | instantiate =>
      rw [reading, instantiatedContract]
      split
      · exact failsAs_ok _
      · exact failsAs_error (.connection _)
  | execute | send => exact failsAs_ok o
  | query | balance => exact failsAs_error (.connection _)

end Failing

/-! ## Calls -/

/-- The message of a call that changes the chain, and who signs it. -/
def transaction? : Call → Option (String × TxMessage)
  | .upload sender wasm => some (sender, .storeCode ⟨sender, wasm⟩)
  | .instantiate sender codeId msg label funds =>
    some (sender,
      .instantiate ⟨sender, "", codeId, label, TxMessage.payload msg, funds.map .ofCoin⟩)
  | .execute sender contract msg funds =>
    some (sender, .execute ⟨sender, contract, TxMessage.payload msg, funds.map .ofCoin⟩)
  | .send sender recipient amount => some (sender, .send ⟨sender, recipient, amount.map .ofCoin⟩)
  | .query .. | .balance .. => none

theorem transaction?_isSome (k : Call) : (transaction? k).isSome = k.transacts := by
  cases k <;> rfl

theorem bind_ends_ok : ∀ e : Exchange α, (e >>= fun a => .ends (.ok a)) = e
  | .ends (.ok _) | .ends (.error _) => rfl
  | .asks r next => congrArg (Exchange.asks r) (funext fun reply => bind_ends_ok (next reply))

/-- A call that changes the chain makes a transaction and reads its outcome. -/
theorem exchange_eq (c : Connection) {k : Call} {sender : String} {message : TxMessage}
    (h : transaction? k = some (sender, message)) :
    c.exchange k = c.transact k.operation sender message >>= fun o => .ends (reading k o) := by
  cases k with
  | upload | instantiate =>
      cases h
      rfl
  | execute | send =>
      cases h
      exact (bind_ends_ok _).symm
  | query | balance => cases h

/-- What is asked for a query. -/
def queryRequest (contract : String) (msg : Json) : NodeRequest :=
  .lookup ContractQuery.path (ContractQuery.layout.encode ⟨contract, TxMessage.payload msg⟩)

/-- What is asked for a balance. -/
def balanceRequest (address denom : String) : NodeRequest :=
  .lookup BalanceQuery.path (BalanceQuery.layout.encode ⟨address, denom⟩)

/-- What a call that only reads asks for. -/
def readRequest? : Call → Option NodeRequest
  | .query contract msg => some (queryRequest contract msg)
  | .balance address denom => some (balanceRequest address denom)
  | .upload .. | .instantiate .. | .execute .. | .send .. => none

/-- A call reads or makes a transaction, but not both. -/
theorem transaction?_of_reads {k : Call} {r : NodeRequest} (h : readRequest? k = some r) :
    transaction? k = none := by
  cases k with
  | query | balance => rfl
  | upload | instantiate | execute | send => cases h

/-- A call that only reads makes one lookup. -/
theorem exchange_reads (c : Connection) {k : Call} (h : k.transacts = false) :
    ∃ path data, ∃ read : Bytes → Fallible k.Answer,
      path ≠ AccountQuery.path ∧ path ≠ SimulationQuery.path
        ∧ readRequest? k = some (.lookup path data)
        ∧ c.exchange k = .asks (.lookup path data) fun reply =>
          .ends (valueIn k.operation path reply >>= read) := by
  cases k with
  | query contract msg =>
      exact ⟨_, _, contractResponse, by decide, by decide, rfl, lookup_bind _ _ _ _⟩
  | balance address denom =>
      exact ⟨_, _, foundBalance denom, by decide, by decide, rfl, lookup_bind _ _ _ _⟩
  | upload | instantiate | execute | send => cases h

end Connection

end Rollout
