import Rollout.Proofs.Chain.Replies
import Rollout.Proofs.Chain.Attempts
import Rollout.Proofs.Deployment.Calling

/-!
# Refusals

A node refuses what it is asked with a code other than zero and a log. The exchange of a call
heeds a refusal (`Exchange.Heeds`): at once it ends with the rejection of its operation, and
the log of the node is the text of that. A rejection is none of the failures that may pass, so
there is no further attempt, and a refusal is the last thing on the record of its call
(`call_heeds`). No operation that changes the chain ever ends with the rejection of a query.
-/

namespace Rollout

/-! ## Refusals and rejections -/

/-- The log of a reply that refuses what was asked. A transaction is refused when it is
checked, or when its block is made. -/
def NodeRequest.refusal? : (r : NodeRequest) → Option r.Reply → Option String
  | lookup .., some reply => if reply.code = 0 then none else some reply.log
  | commit _, some reply =>
    if reply.check.code ≠ 0 then some reply.check.log
    else if reply.result.code ≠ 0 then some reply.result.log
    else none
  | latestBlock, some _ | faucet .., some _ => none
  | _, none => none

/-- The log of a refusal on a record. -/
def NodeEvent.refusal? : NodeEvent → Option String
  | asked _ => none
  | told r reply => r.refusal? reply

/-- The kind of failure that a refused operation has. -/
def Operation.rejection : Operation → FailureKind
  | upload => .uploadRejected
  | instantiate => .instantiateRejected
  | execute | send => .executeRejected
  | query | balance => .queryRejected

/-- Operations that change the chain. -/
def Operation.transacts : Operation → Bool
  | upload | instantiate | execute | send => true
  | query | balance => false

namespace Failure

theorem retryable_rejected (operation : Operation) (log : String) :
    (rejected operation log).retryable = false := by
  cases operation <;> rfl

@[simp] theorem detail_rejected (operation : Operation) (log : String) :
    (rejected operation log).detail = log := by
  cases operation <;> rfl

theorem kind_rejected (operation : Operation) (log : String) :
    (rejected operation log).kind = operation.rejection := by
  cases operation <;> rfl

/-- A failure that an operation may have: if it changes the chain, not the rejection of a query. -/
def Befits (operation : Operation) (f : Failure) : Prop :=
  operation.transacts = true → ∀ log, f ≠ .queryRejected log

theorem befits_rejected (operation : Operation) (log : String) :
    (rejected operation log).Befits operation := by
  cases operation with
  | query | balance => exact nofun
  | _ => exact fun _ => nofun

theorem OfNode.befits {operation : Operation} {f : Failure} (h : f.OfNode operation) :
    f.Befits operation := by
  cases h with
  | rejected log => exact befits_rejected operation log
  | connection => exact fun _ => nofun

end Failure

/-- All failures with which a result may end befit an operation. -/
def Befitting (operation : Operation) (r : Fallible α) : Prop :=
  ∀ f, r = .error f → f.Befits operation

section Befitting

variable {operation : Operation}

theorem befitting_ok (a : α) : Befitting operation (.ok a : Fallible α) := nofun

theorem befitting_error {f : Failure} (h : f.Befits operation) :
    Befitting operation (.error f : Fallible α) := by
  rintro f' ⟨⟩
  exact h

theorem Befitting.bind {r : Fallible α} {next : α → Fallible β} (h : Befitting operation r)
    (hnext : ∀ a, Befitting operation (next a)) : Befitting operation (r >>= next) := by
  cases r with
  | ok a => exact hnext a
  | error f => exact befitting_error (h f rfl)

theorem Befitting.map {r : Fallible α} (h : Befitting operation r) (f : α → β) :
    Befitting operation (r.map f) := by
  cases r with
  | ok a => exact befitting_ok (f a)
  | error e => exact befitting_error (h e rfl)

theorem befitting_mapError {r : Except ε α} {g : ε → Failure} (h : ∀ e, (g e).Befits operation) :
    Befitting operation (r.mapError g) := by
  cases r with
  | ok a => exact befitting_ok a
  | error e => exact befitting_error (h e)

/-- Any failure befits an operation that only reads. -/
theorem befitting_of_reads (h : operation.transacts = false) (r : Fallible α) :
    Befitting operation r :=
  fun _ _ htransacts => absurd (h.symm.trans htransacts) Bool.false_ne_true

end Befitting

namespace Exchange

/-! ## Heeding a refusal -/

/-- An exchange that ends with the rejection of an operation as soon as it is refused, and otherwise
only as befits the operation. -/
inductive Heeds (operation : Operation) : Exchange α → Prop
  | ends (r : Fallible α) (h : Befitting operation r) : Heeds operation (.ends r)
  | asks {r : NodeRequest} {next : Option r.Reply → Exchange α}
      (hrefused : ∀ reply log, r.refusal? reply = some log →
        next reply = .ends (.error (.rejected operation log)))
      (h : ∀ reply, Heeds operation (next reply)) : Heeds operation (.asks r next)

section Heeds

variable {operation : Operation}

theorem Heeds.bind {e : Exchange α} {next : α → Exchange β} (he : e.Heeds operation)
    (hnext : ∀ a, (next a).Heeds operation) : (e >>= next).Heeds operation := by
  induction he with
  | ends r h =>
      cases r with
      | ok a => exact hnext a
      | error f => exact .ends _ (befitting_error (h f rfl))
  | asks hrefused _ ih =>
      refine .asks (fun reply log hlog => ?_) ih
      exact congrArg (fun e => e.andThen next) (hrefused reply log hlog)

/-- One round, read as befits the operation. -/
theorem heeds_round {r : NodeRequest} {read : Option r.Reply → Fallible α}
    (hrefused : ∀ reply log, r.refusal? reply = some log →
      read reply = .error (.rejected operation log))
    (hread : ∀ reply, Befitting operation (read reply)) :
    Heeds operation (.asks r fun reply => .ends (read reply)) :=
  .asks (fun reply log hlog => by rw [hrefused reply log hlog]) fun reply => .ends _ (hread reply)

/-- What is on record of an exchange that heeds refusals, or of its attempts. -/
structure Heeded (operation : Operation) (log : List NodeEvent) (v : Option (Fallible α)) :
    Prop where
  /-- A refusal is the last word, and its log is the text of the rejection. -/
  refused : ∀ before e after text, log = before ++ e :: after → e.refusal? = some text →
    after = [] ∧ v = some (.error (.rejected operation text))
  befits : ∀ r, v = some r → Befitting operation r

theorem Heeds.transcript {e : Exchange α} (he : e.Heeds operation) :
    ∀ {log : List NodeEvent} {v : Option (Fallible α)}, e.Transcript log v →
      Heeded operation log v := by
  induction he with
  | ends r hr =>
      intro log v h
      cases h
      refine ⟨fun before e after text hlog => absurd hlog (by simp), ?_⟩
      rintro r' ⟨⟩
      exact hr
  | @asks r next hrefused _ ih =>
      intro log v h
      cases h with
      | unanswered =>
          refine ⟨fun before e after text hlog htext => ?_, nofun⟩
          cases e with
          | asked _ => cases htext
          | told r' reply' => exact absurd hlog not_told_of_unanswered
      | @answered _ _ log v reply h =>
          refine ⟨fun before e after text hlog htext => ?_, (ih reply h).befits⟩
          cases e with
          | asked _ => cases htext
          | told r' reply' =>
              rcases told_of_answered hlog with ⟨-, heq, rfl⟩ | ⟨before', -, hlog'⟩
              · cases heq
                rw [hrefused reply text htext] at h
                cases h
                exact ⟨rfl, rfl⟩
              · exact (ih reply h).refused before' _ after text hlog' htext

/-- A rejection is not tried again, so a refusal is the last word of all attempts. -/
theorem Attempts.heeded {e : Exchange α} (he : e.Heeds operation) {late : Failure}
    (hlate : late.Befits operation) {left : Nat} {log : List NodeEvent} {result : Fallible α}
    (h : e.Attempts late left log result) : Heeded operation log (some result) := by
  induction h with
  | @last left log v h _ =>
      have hone := he.transcript h
      refine ⟨fun before e after text hlog htext => ?_, ?_⟩
      · obtain ⟨hafter, rfl⟩ := hone.refused before e after text hlog htext
        exact ⟨hafter, rfl⟩
      · rintro r ⟨⟩
        cases v with
        | some r => exact hone.befits r rfl
        | none => exact befitting_error hlate
  | @again left log rest v f result h hf hretry _ ih =>
      have hone := he.transcript h
      refine ⟨fun before e after text hlog htext => ?_, ih.befits⟩
      rcases List.append_eq_append_iff.mp hlog with ⟨more, rfl, hmore⟩ | ⟨more, hmine, hmore⟩
      · exact ih.refused more e after text hmore htext
      · rcases more with _ | ⟨x, more⟩
        · exact ih.refused [] e after text hmore.symm htext
        · -- the refusal is one of the first attempt, which would not have been tried again
          obtain ⟨rfl, -⟩ := List.cons.inj hmore
          obtain ⟨-, rfl⟩ := hone.refused before _ more text hmine htext
          obtain rfl := Except.error.inj hf
          rw [Failure.retryable_rejected] at hretry
          cases hretry

end Heeds

end Exchange

/-! ## Calls heed refusals -/

namespace Connection

open Wire

variable {operation : Operation}

theorem befitting_accountIn (address : String) (bytes : Bytes) :
    Befitting operation (accountIn operation address bytes) :=
  (accountIn_fails operation address bytes).mono fun _ => Failure.OfNode.befits

theorem befitting_gasIn (bytes : Bytes) : Befitting operation (gasIn operation bytes) :=
  (gasIn_fails operation bytes).mono fun _ => Failure.OfNode.befits

theorem befitting_committed (reply : Option CommitReply) :
    Befitting operation (committed operation reply) :=
  (committed_fails operation reply).mono fun _ => Failure.OfNode.befits

theorem befitting_signerFor (c : Connection) (sender : String) :
    Befitting operation (c.signerFor sender) := by
  refine Befitting.bind ?_ fun w => Befitting.bind ?_ fun address => ?_
  · rw [requireWallet]
    cases c.wallet with
    | some w => exact befitting_ok w
    | none => exact befitting_error fun _ => nofun
  · rw [Wallet.address]
    cases Bech32.encode? w.accountPrefix w.account with
    | some s => exact befitting_ok s
    | none => exact befitting_error fun _ => nofun
  · split
    · exact befitting_ok w
    · exact befitting_error fun _ => nofun

theorem befitting_signed (c : Connection) (w : Wallet) (a : Account) (price : GasPrice)
    (message : TxMessage) (limit : UInt64) :
    Befitting operation (c.signed w a price message limit) := by
  refine Befitting.bind (befitting_mapError ?_) fun fee => ?_
  · exact fun _ _ => nofun
  · rw [Wallet.signTx]
    split
    · exact befitting_ok _
    · exact befitting_error fun _ => nofun

/-- What is made of an outcome befits the call. -/
theorem befitting_reading (k : Call) (o : TxOutcome) : Befitting k.operation (reading k o) :=
  (reading_fails k o).mono fun _ => Failure.OfNode.befits

theorem valueIn_refused {path : String} {data : Bytes} {reply : Option LookupReply} {log : String}
    (h : (NodeRequest.lookup path data).refusal? reply = some log) :
    valueIn operation path reply = .error (.rejected operation log) := by
  cases reply with
  | none => cases h
  | some reply =>
      rw [valueIn]
      rw [NodeRequest.refusal?] at h
      split at h
      · cases h
      · next hcode =>
        rw [if_neg hcode]
        cases h
        rfl

theorem committed_refused {tx : Bytes} {reply : Option CommitReply} {log : String}
    (h : (NodeRequest.commit tx).refusal? reply = some log) :
    committed operation reply = .error (.rejected operation log) := by
  cases reply with
  | none => cases h
  | some reply =>
      rw [committed, outcome]
      rw [NodeRequest.refusal?] at h
      split at h
      · next hcheck =>
        rw [if_pos hcheck]
        cases h
        rfl
      · next hcheck =>
        rw [if_neg hcheck]
        split at h
        · next hresult =>
          rw [if_pos hresult]
          cases h
          rfl
        · cases h

/-- A lookup and the reading of what it found. -/
theorem heeds_lookup (path : String) (data : Bytes) {read : Bytes → Fallible α}
    (hread : ∀ bytes, Befitting operation (read bytes)) :
    Exchange.Heeds operation
      (.asks (.lookup path data) fun reply => .ends (valueIn operation path reply >>= read)) :=
  Exchange.heeds_round (fun reply log hlog => by rw [valueIn_refused hlog]; rfl)
    fun reply => Befitting.bind ((valueIn_fails operation path reply).mono fun _ => Failure.OfNode.befits) hread

theorem befitting_parsedGasPrice (network : Network) :
    Befitting operation network.parsedGasPrice :=
  befitting_mapError fun _ _ => nofun

theorem heeds_gasLimit (c : Connection) (w : Wallet) (a : Account) (price : GasPrice)
    (message : TxMessage) : (c.gasLimit operation w a price message).Heeds operation := by
  rw [gasLimit]
  cases c.network.gasLimit with
  | some limit => exact .ends _ (befitting_ok limit)
  | none =>
      refine Exchange.Heeds.bind (.ends _ (c.befitting_signed w a price message _)) fun tx => ?_
      rw [simulate_eq]
      exact (heeds_lookup _ _ befitting_gasIn).bind fun used => .ends _ (befitting_ok _)

theorem heeds_transact (c : Connection) (sender : String) (message : TxMessage) :
    (c.transact operation sender message).Heeds operation := by
  refine Exchange.Heeds.bind (.ends _ (c.befitting_signerFor sender)) fun w => ?_
  rw [account_eq]
  refine (heeds_lookup _ _ (befitting_accountIn sender)).bind fun a => ?_
  refine Exchange.Heeds.bind (.ends _ (befitting_parsedGasPrice _)) fun price => ?_
  refine (c.heeds_gasLimit w a price message).bind fun limit => ?_
  refine Exchange.Heeds.bind (.ends _ (c.befitting_signed w a price message limit)) fun tx => ?_
  rw [submit_eq]
  exact Exchange.heeds_round (fun reply log hlog => committed_refused hlog) befitting_committed

/-- The exchange of every call heeds refusals. -/
theorem heeds_exchange (c : Connection) (k : Call) : (c.exchange k).Heeds k.operation := by
  cases htransaction : transaction? k with
  | some transaction =>
      rw [c.exchange_eq htransaction]
      exact (c.heeds_transact _ _).bind fun o => .ends _ (befitting_reading k o)
  | none =>
      have hreads : k.transacts = false := by rw [← transaction?_isSome, htransaction]; rfl
      obtain ⟨path, data, read, -, -, -, heq⟩ := c.exchange_reads hreads
      rw [heq]
      refine heeds_lookup path data fun bytes => befitting_of_reads ?_ _
      cases k with
      | query | balance => rfl
      | _ => cases hreads

end Connection

namespace Deployment

/-- A call through a connection ends with the rejection of its operation if it is refused in
any of its attempts; there is no further attempt then. -/
theorem call_heeds (d : Deployment σ) (c : Connection) (n : Node σ) (k : Call) (now : Nat)
    (p : Progress (Recorded σ)) :
    ∃ r t w log, ((d.through c n).call k).result now p = ⟨some r, t, { p with world := w }⟩
      ∧ w.1 = p.world.1 ++ log ∧ Exchange.Heeded k.operation log (some r) := by
  obtain ⟨r, t, q, log, hrun, hlog, hattempts⟩ := d.call_attempts c n k now p
  obtain ⟨r', t', w, hframe⟩ := (d.through c n).result_call k now p
  obtain ⟨⟨⟩, rfl, rfl⟩ := Timed.Result.mk.inj (hrun.symm.trans hframe)
  have hlate : (d.late k).Befits k.operation := by
    rw [late]
    exact fun _ => nofun
  exact ⟨r, t, w, log, hrun, hlog, hattempts.heeded (c.heeds_exchange k) hlate⟩

end Deployment

end Rollout
