import Rollout.Proofs.Chain.Transcript

/-!
# The exchange of a transaction

An attempt at a transaction looks the account up once, may simulate, and submits the
transaction last; what the node says to that decides how the attempt ends
(`Exchange.Finishes`). So the transcript of a transaction has one request for an account, with
which it begins, and the reply to a submitted transaction is its last word
(`transcript_of_finishes`).
-/

namespace Rollout

/-- The calls that make a transaction. -/
def Call.transacts : Call → Bool
  | upload .. | instantiate .. | execute .. | send .. => true
  | query .. | balance .. => false

/-- An account is asked for, with which each attempt begins. -/
def NodeEvent.asksAccount : NodeEvent → Bool
  | asked (.lookup path _) => path = AccountQuery.path
  | _ => false

/-! ## The end of an exchange -/

namespace Exchange

/-- An exchange that only looks up other things than accounts. -/
inductive OnlySimulates : Exchange α → Prop
  | ends (result : Fallible α) : OnlySimulates (.ends result)
  | looksUp {path : String} {data : Bytes} {next : Option LookupReply → Exchange α}
      (hpath : path ≠ AccountQuery.path) (h : ∀ reply, OnlySimulates (next reply)) :
      OnlySimulates (.asks (.lookup path data) next)

/-- An exchange that submits a transaction at most once, and ends with what it makes of the
reply. -/
inductive Finishes (answer : Option CommitReply → Fallible α) : Exchange α → Prop
  | ends (result : Fallible α) : Finishes answer (.ends result)
  | looksUp {path : String} {data : Bytes} {next : Option LookupReply → Exchange α}
      (hpath : path ≠ AccountQuery.path) (h : ∀ reply, Finishes answer (next reply)) :
      Finishes answer (.asks (.lookup path data) next)
  | commits (tx : Bytes) : Finishes answer (.asks (.commit tx) fun reply => .ends (answer reply))

theorem OnlySimulates.bind {e : Exchange α} {next : α → Exchange β} (he : e.OnlySimulates)
    (hnext : ∀ a, (next a).OnlySimulates) : (e >>= next).OnlySimulates := by
  induction he with
  | ends result =>
      cases result with
      | ok a => exact hnext a
      | error f => exact .ends (.error f)
  | looksUp hpath _ ih => exact .looksUp hpath ih

theorem OnlySimulates.bind_finishes {answer : Option CommitReply → Fallible β} {e : Exchange α}
    {next : α → Exchange β} (he : e.OnlySimulates) (hnext : ∀ a, (next a).Finishes answer) :
    (e >>= next).Finishes answer := by
  induction he with
  | ends result =>
      cases result with
      | ok a => exact hnext a
      | error f => exact .ends (.error f)
  | looksUp hpath _ ih => exact .looksUp hpath ih

theorem ends_bind (r : Fallible α) (read : α → Fallible β) :
    (ends r >>= fun a => ends (read a)) = ends (r >>= read) := by
  cases r <;> rfl

/-- Reading the result of an exchange adds nothing to it. -/
theorem Finishes.bind_ends {answer : Option CommitReply → Fallible α} {e : Exchange α}
    (he : e.Finishes answer) (read : α → Fallible β) :
    (e >>= fun a => .ends (read a)).Finishes fun reply => answer reply >>= read := by
  induction he with
  | ends result =>
      rw [ends_bind]
      exact .ends _
  | looksUp hpath _ ih => exact .looksUp hpath ih
  | commits tx =>
      have h : (Exchange.asks (.commit tx) (fun reply => .ends (answer reply))
          >>= fun a => .ends (read a)) =
            .asks (.commit tx) fun reply => .ends (answer reply >>= read) :=
        congrArg (Exchange.asks (.commit tx)) (funext fun reply => ends_bind (answer reply) read)
      rw [h]
      exact .commits tx

/-- Where a reply stands in a record: it is the first one, or it comes after it. -/
theorem told_of_answered {r r' : NodeRequest} {reply : Option r.Reply} {reply' : Option r'.Reply}
    {log before after : List NodeEvent}
    (h : .asked r :: .told r reply :: log = before ++ NodeEvent.told r' reply' :: after) :
    (before = [.asked r] ∧ NodeEvent.told r reply = .told r' reply' ∧ log = after)
      ∨ ∃ before', before = .asked r :: .told r reply :: before'
        ∧ log = before' ++ .told r' reply' :: after := by
  rcases before with _ | ⟨x, _ | ⟨y, before'⟩⟩
  · cases (List.cons.inj h).1
  · obtain ⟨hasked, hrest⟩ := List.cons.inj h
    obtain ⟨htold, hlog⟩ := List.cons.inj hrest
    exact .inl ⟨by rw [hasked], htold, hlog⟩
  · obtain ⟨hasked, hrest⟩ := List.cons.inj h
    obtain ⟨htold, hlog⟩ := List.cons.inj hrest
    exact .inr ⟨before', by rw [hasked, htold], hlog⟩

theorem not_told_of_unanswered {r r' : NodeRequest} {reply' : Option r'.Reply}
    {before after : List NodeEvent} :
    [.asked r] ≠ before ++ NodeEvent.told r' reply' :: after := by
  intro h
  rcases before with _ | ⟨x, before'⟩
  · cases (List.cons.inj h).1
  · exact absurd (List.cons.inj h).2 (by simp)

/-- In the transcript of an exchange that finishes so, no account is asked for, and the reply to a
transaction is the last word. -/
theorem Finishes.transcript {answer : Option CommitReply → Fallible α} {e : Exchange α}
    (he : e.Finishes answer) : ∀ {log : List NodeEvent} {v : Option (Fallible α)},
      e.Transcript log v → log.countP NodeEvent.asksAccount = 0
        ∧ ∀ before tx reply after, log = before ++ .told (.commit tx) reply :: after →
          after = [] ∧ v = some (answer reply) := by
  induction he with
  | ends result =>
      intro log v h
      cases h
      exact ⟨rfl, fun before _ _ _ hlog => absurd hlog (by simp)⟩
  | @looksUp path data next hpath _ ih =>
      intro log v h
      have hasked : (NodeEvent.asked (.lookup path data)).asksAccount = false := by
        simpa [NodeEvent.asksAccount] using hpath
      cases h with
      | unanswered =>
          exact ⟨by simp [hasked], fun _ _ _ _ hlog => absurd hlog not_told_of_unanswered⟩
      | answered reply h =>
          obtain ⟨hcount, htold⟩ := ih reply h
          refine ⟨?_, fun before tx reply' after hlog => ?_⟩
          · rw [List.countP_cons_of_neg (by simp [hasked]),
              List.countP_cons_of_neg (by simp [NodeEvent.asksAccount])]
            exact hcount
          · rcases told_of_answered hlog with ⟨-, heq, -⟩ | ⟨before', -, hlog'⟩
            · cases heq
            · exact htold before' tx reply' after hlog'
  | commits tx =>
      intro log v h
      cases h with
      | unanswered => exact ⟨rfl, fun _ _ _ _ hlog => absurd hlog not_told_of_unanswered⟩
      | answered reply h =>
          cases h
          refine ⟨rfl, fun before tx' reply' after hlog => ?_⟩
          rcases told_of_answered hlog with ⟨-, heq, hafter⟩ | ⟨before', -, hlog'⟩
          · cases heq
            exact ⟨hafter.symm, rfl⟩
          · exact absurd hlog' (by simp)

/-- An exchange that asks for an account first and then finishes, unless it fails at once. -/
inductive Transacts (answer : Option CommitReply → Fallible α) : Exchange α → Prop
  | refused (f : Failure) : Transacts answer (.ends (.error f))
  | asks (data : Bytes) {next : Option LookupReply → Exchange α}
      (h : ∀ reply, (next reply).Finishes answer) :
      Transacts answer (.asks (.lookup AccountQuery.path data) next)

theorem Transacts.bind_ends {answer : Option CommitReply → Fallible α} {e : Exchange α}
    (he : e.Transacts answer) (read : α → Fallible β) :
    (e >>= fun a => .ends (read a)).Transacts fun reply => answer reply >>= read := by
  cases he with
  | refused f => exact .refused f
  | asks data h => exact .asks data fun reply => (h reply).bind_ends read

/-- A transcript of a transaction begins with a request for an account, which is the only one,
and the reply to a submitted transaction is its last word. -/
theorem transcript_of_finishes {answer : Option CommitReply → Fallible α} {data : Bytes}
    {next : Option LookupReply → Exchange α} (hnext : ∀ reply, (next reply).Finishes answer)
    {log : List NodeEvent} {v : Option (Fallible α)}
    (h : (asks (.lookup AccountQuery.path data) next).Transcript log v) :
    (∃ rest, log = .asked (.lookup AccountQuery.path data) :: rest)
      ∧ log.countP NodeEvent.asksAccount = 1
      ∧ ∀ before tx reply after, log = before ++ .told (.commit tx) reply :: after →
        after = [] ∧ v = some (answer reply) ∧ before.countP NodeEvent.asksAccount = 1 := by
  cases h with
  | unanswered => exact ⟨⟨_, rfl⟩, rfl, fun _ _ _ _ hlog => absurd hlog not_told_of_unanswered⟩
  | @answered _ _ log v reply h =>
      obtain ⟨hcount, htold⟩ := (hnext reply).transcript h
      have hone (log : List NodeEvent) (hlog : log.countP NodeEvent.asksAccount = 0) :
          (NodeEvent.asked (.lookup AccountQuery.path data)
            :: .told (.lookup AccountQuery.path data) reply :: log).countP
              NodeEvent.asksAccount = 1 := by
        rw [List.countP_cons_of_pos (by simp [NodeEvent.asksAccount]),
          List.countP_cons_of_neg (by simp [NodeEvent.asksAccount]), hlog]
      refine ⟨⟨_, rfl⟩, hone log hcount, fun before tx reply' after hlog => ?_⟩
      rcases told_of_answered hlog with ⟨-, heq, -⟩ | ⟨before', rfl, rfl⟩
      · cases heq
      · obtain ⟨hafter, hv⟩ := htold before' tx reply' after rfl
        rw [List.countP_append, Nat.add_eq_zero_iff] at hcount
        exact ⟨hafter, hv, hone before' hcount.1⟩

end Exchange

/-! ## The exchange of a transaction -/

namespace Connection

/-- What the reply to a submitted transaction comes to. -/
def committed (operation : Operation) : Option CommitReply → Fallible TxOutcome
  | some reply => outcome operation reply
  | none => .error (broken "Failed to broadcast transaction")

/-- The answer to a call in the outcome of its transaction. Calls that only read have none. -/
def reading : (k : Call) → TxOutcome → Fallible k.Answer
  | .upload .., o => storedCode o
  | .instantiate .., o => instantiatedContract o
  | .execute .., o | .send .., o => .ok o
  | .query .., _ | .balance .., _ => .error (.connection "not a transaction")

/-- What a call makes of the reply to its transaction. -/
def answerTo (k : Call) (reply : Option CommitReply) : Fallible k.Answer :=
  committed k.operation reply >>= reading k

theorem onlySimulates_lookup (operation : Operation) {path : String} (data : Bytes)
    (hpath : path ≠ AccountQuery.path) : (lookup operation path data).OnlySimulates := by
  refine Exchange.OnlySimulates.bind (.looksUp hpath fun reply => ?_) fun reply => ?_
  · cases reply <;> exact .ends _
  · split <;> exact .ends _

theorem onlySimulates_simulate (operation : Operation) (tx : SignedTx) :
    (simulate operation tx).OnlySimulates := by
  refine (onlySimulates_lookup operation _ (by decide)).bind fun bytes => ?_
  refine Exchange.OnlySimulates.bind (.ends _) fun found => ?_
  split <;> exact .ends _

theorem onlySimulates_gasLimit (c : Connection) (operation : Operation) (w : Wallet)
    (a : Account) (price : GasPrice) (message : TxMessage) :
    (c.gasLimit operation w a price message).OnlySimulates := by
  rw [gasLimit]
  cases c.network.gasLimit with
  | some limit => exact .ends _
  | none =>
      refine Exchange.OnlySimulates.bind (.ends _) fun tx => ?_
      exact (onlySimulates_simulate operation tx).bind fun used => .ends _

theorem submit_eq (operation : Operation) (tx : Bytes) :
    (do
      let reply ← send "Failed to broadcast transaction" (.commit tx)
      outcome operation reply : Exchange TxOutcome) =
        .asks (.commit tx) fun reply => .ends (committed operation reply) := by
  refine congrArg (Exchange.asks (.commit tx)) (funext fun reply => ?_)
  cases reply <;> rfl

/-- A transaction is submitted, and the reply is the last word. -/
theorem finishes_submit (operation : Operation) (tx : Bytes) :
    Exchange.Finishes (committed operation) (do
      let reply ← send "Failed to broadcast transaction" (.commit tx)
      outcome operation reply) := by
  rw [submit_eq]
  exact .commits tx

/-- After the account is found, the rest of a transaction finishes. -/
theorem finishes_after_account (c : Connection) (operation : Operation) (w : Wallet)
    (a : Account) (message : TxMessage) :
    Exchange.Finishes (committed operation) (do
      let price ← c.network.parsedGasPrice
      let limit ← c.gasLimit operation w a price message
      let tx ← c.signed w a price message limit
      let reply ← send "Failed to broadcast transaction" (.commit (SignedTx.layout.encode tx))
      outcome operation reply) := by
  refine Exchange.OnlySimulates.bind_finishes (.ends _) fun price => ?_
  refine (c.onlySimulates_gasLimit operation w a price message).bind_finishes fun limit => ?_
  refine Exchange.OnlySimulates.bind_finishes (.ends _) fun tx => ?_
  exact finishes_submit operation _

theorem account_asks (operation : Operation) (address : String) :
    ∃ next, account operation address =
        .asks (.lookup AccountQuery.path (AccountQuery.layout.encode ⟨address⟩)) next
      ∧ ∀ reply, (next reply).OnlySimulates := by
  refine ⟨_, rfl, fun reply => ?_⟩
  refine Exchange.OnlySimulates.bind (Exchange.OnlySimulates.bind ?_ fun reply => ?_) fun bytes => ?_
  · cases reply <;> exact .ends _
  · split <;> exact .ends _
  · refine Exchange.OnlySimulates.bind (.ends _) fun found => ?_
    split <;> exact .ends _

theorem transacts_transact (c : Connection) (operation : Operation) (sender : String)
    (message : TxMessage) :
    (c.transact operation sender message).Transacts (committed operation) := by
  rw [transact]
  cases c.signerFor sender with
  | error f => exact .refused f
  | ok w =>
      obtain ⟨next, haccount, hnext⟩ := account_asks operation sender
      rw [haccount]
      exact .asks _ fun reply =>
        (hnext reply).bind_finishes fun a => c.finishes_after_account operation w a message

theorem bind_ok (r : Fallible α) : (r >>= fun a => .ok a) = r := by
  cases r <;> rfl

/-- The exchange of a call that makes a transaction. -/
theorem transacts_exchange (c : Connection) (k : Call) (hk : k.transacts = true) :
    (c.exchange k).Transacts (answerTo k) := by
  cases k with
  | upload sender wasm => exact (c.transacts_transact _ _ _).bind_ends storedCode
  | instantiate sender codeId msg label funds =>
      exact (c.transacts_transact _ _ _).bind_ends instantiatedContract
  | execute sender contract msg funds =>
      have h : answerTo (.execute sender contract msg funds) = committed .execute :=
        funext fun reply => bind_ok (committed .execute reply)
      rw [h]
      exact c.transacts_transact _ _ _
  | send sender recipient amount =>
      have h : answerTo (.send sender recipient amount) = committed .send :=
        funext fun reply => bind_ok (committed .send reply)
      rw [h]
      exact c.transacts_transact _ _ _
  | query | balance => cases hk

end Connection

end Rollout
