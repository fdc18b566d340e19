import Rollout.Proofs.Chain.Replies

/-!
# What a call asks next

All that a call asks is settled by its arguments, the settings and the replies so far. A call that
only reads asks for one thing. A transaction asks for the account of its sender; signed for that
account it is simulated, unless the network sets the gas; and signed for the gas limit that was
settled on (`Settles`) it is submitted.

`AsksNext` has one constructor for each of these requests. At equal replies it leads to equal
requests (`AsksNext.unique`), and whatever a node says, each request on record is the next one after
the record before it (`asking_exchange`).
-/

namespace Rollout

namespace Exchange

/-! ## Requests and the record before them -/

/-- Where a request stands in a record: it is the first one, or it comes after the first reply. -/
theorem asked_of_answered {r r' : NodeRequest} {reply : Option r.Reply}
    {log before after : List NodeEvent}
    (h : .asked r :: .told r reply :: log = before ++ NodeEvent.asked r' :: after) :
    (before = [] ∧ r' = r)
      ∨ ∃ before', before = .asked r :: .told r reply :: before'
        ∧ log = before' ++ .asked r' :: after := by
  rcases before with _ | ⟨x, _ | ⟨y, before'⟩⟩
  · cases (List.cons.inj h).1
    exact .inl ⟨rfl, rfl⟩
  · cases (List.cons.inj (List.cons.inj h).2).1
  · obtain ⟨hasked, hrest⟩ := List.cons.inj h
    obtain ⟨htold, hlog⟩ := List.cons.inj hrest
    exact .inr ⟨before', by rw [hasked, htold], hlog⟩

theorem asked_of_unanswered {r r' : NodeRequest} {before after : List NodeEvent}
    (h : [.asked r] = before ++ NodeEvent.asked r' :: after) : before = [] ∧ r' = r := by
  rcases before with _ | ⟨x, before'⟩
  · cases (List.cons.inj h).1
    exact ⟨rfl, rfl⟩
  · exact absurd (List.cons.inj h).2 (by simp)

/-- Whatever the replies, each request of an exchange stands in a relation to the record before
it. -/
def Asking (P : List NodeEvent → NodeRequest → Prop) (e : Exchange α) : Prop :=
  ∀ log v, e.Transcript log v → ∀ before r after, log = before ++ .asked r :: after → P before r

section Asking

variable {P : List NodeEvent → NodeRequest → Prop}

theorem asking_ends (result : Fallible α) : Asking P (.ends result) := by
  intro log v h before r after hlog
  cases h
  exact absurd hlog (by simp)

theorem asking_round {r : NodeRequest} {read : Option r.Reply → Fallible α} (h : P [] r) :
    Asking P (.asks r fun reply => .ends (read reply)) := by
  intro log v htranscript before r' after hlog
  rcases htranscript.of_round with ⟨rfl, -⟩ | ⟨reply, rfl, -⟩
  · obtain ⟨rfl, rfl⟩ := asked_of_unanswered hlog
    exact h
  · rcases asked_of_answered hlog with ⟨rfl, rfl⟩ | ⟨before', -, hrest⟩
    · exact h
    · exact absurd hrest (by simp)

/-- What comes after a value is asked on the record that led to it. -/
theorem Asking.bind {e : Exchange α} {next : α → Exchange β} (he : Asking P e)
    (hnext : ∀ a first, e.Transcript first (some (.ok a)) →
      Asking (fun before => P (first ++ before)) (next a)) : Asking P (e >>= next) := by
  intro log v h before r after hlog
  rcases h.of_bind with ⟨stopped, hstopped, -⟩ | ⟨a, first, later, hfirst, hlater, rfl⟩
  · exact he log stopped hstopped before r after hlog
  · rcases List.append_eq_append_iff.mp hlog with ⟨mid, rfl, hmid⟩ | ⟨mid, rfl, hmid⟩
    · exact hnext a first hfirst later v hlater mid r after hmid
    · cases mid with
      | nil =>
          have hasked := hnext a _ hfirst later v hlater [] r after hmid.symm
          rwa [List.append_nil, List.append_nil] at hasked
      | cons x mid =>
          obtain ⟨rfl, rfl⟩ := List.cons.inj hmid
          exact he _ _ hfirst before r mid rfl

/-- What is settled without a request adds nothing to the record. -/
theorem asking_settled (result : Fallible α) {next : α → Exchange β}
    (hnext : ∀ a, result = .ok a → Asking P (next a)) :
    Asking P (liftM result >>= next : Exchange β) := by
  cases result with
  | ok a => exact hnext a rfl
  | error f => exact asking_ends (.error f)

end Asking

end Exchange

namespace Connection

open Exchange

/-! ## The requests of a transaction -/

/-- What is asked for the account of a sender. -/
def accountRequest (sender : String) : NodeRequest :=
  .lookup AccountQuery.path (AccountQuery.layout.encode ⟨sender⟩)

/-- What is asked to simulate a transaction. -/
def simulationRequest (tx : SignedTx) : NodeRequest :=
  .lookup SimulationQuery.path (SimulationQuery.layout.encode ⟨SignedTx.layout.encode tx⟩)

/-- The rounds in which a gas limit is settled on: none if the network sets it, else that of a
simulation. -/
inductive Settles (c : Connection) (operation : Operation) (w : Wallet) (account : Account)
    (price : GasPrice) (message : TxMessage) : List NodeEvent → UInt64 → Prop
  | fixed {limit : UInt64} (hlimit : c.network.gasLimit = some limit) :
      Settles c operation w account price message [] limit
  | simulated {tx : SignedTx} {reply : Option LookupReply} {used : UInt64}
      (hlimit : c.network.gasLimit = none)
      (htx : c.signed w account price message simulationGasLimit = .ok tx)
      (hused : valueIn operation SimulationQuery.path reply >>= gasIn operation = .ok used) :
      Settles c operation w account price message
        [.asked (simulationRequest tx), .told (simulationRequest tx) reply]
        (adjustedGasLimit c.network used)

/-- What a transaction is made of, but for its gas limit. -/
structure Draft where
  sender : String
  message : TxMessage
  wallet : Wallet
  account : Account
  price : GasPrice

/-- The round in which the account of a draft is found. -/
def Draft.round (t : Draft) (reply : Option LookupReply) : List NodeEvent :=
  [.asked (accountRequest t.sender), .told (accountRequest t.sender) reply]

/-- A draft for a call, once its account is found in a reply. -/
structure Draft.Found (t : Draft) (c : Connection) (k : Call) (reply : Option LookupReply) :
    Prop where
  message : transaction? k = some (t.sender, t.message)
  signer : c.signerFor t.sender = .ok t.wallet
  account : valueIn k.operation AccountQuery.path reply >>= accountIn k.operation t.sender =
    .ok t.account
  priced : c.network.parsedGasPrice = .ok t.price

/-- What a call asks next after a record. -/
inductive AsksNext (c : Connection) (k : Call) : List NodeEvent → NodeRequest → Prop
  | reading {r : NodeRequest} (h : readRequest? k = some r) : AsksNext c k [] r
  | account {sender : String} {message : TxMessage} {w : Wallet}
      (hmessage : transaction? k = some (sender, message)) (hsigner : c.signerFor sender = .ok w) :
      AsksNext c k [] (accountRequest sender)
  | simulation {t : Draft} {reply : Option LookupReply} {tx : SignedTx} (hfound : t.Found c k reply)
      (hlimit : c.network.gasLimit = none)
      (htx : c.signed t.wallet t.account t.price t.message simulationGasLimit = .ok tx) :
      AsksNext c k (t.round reply) (simulationRequest tx)
  | submission {t : Draft} {reply : Option LookupReply} {settling : List NodeEvent}
      {limit : UInt64} {tx : SignedTx} (hfound : t.Found c k reply)
      (hsettles : c.Settles k.operation t.wallet t.account t.price t.message settling limit)
      (htx : c.signed t.wallet t.account t.price t.message limit = .ok tx) :
      AsksNext c k (t.round reply ++ settling) (.commit (SignedTx.layout.encode tx))

/-- Nothing is submitted. -/
def Unsubmitted (log : List NodeEvent) : Prop := ∀ bytes, .asked (.commit bytes) ∉ log

theorem unsubmitted_nil : Unsubmitted [] := fun _ => List.not_mem_nil

/-- Whatever is asked, nothing has been submitted before. -/
theorem AsksNext.unsubmitted {c : Connection} {k : Call} {log : List NodeEvent} {r : NodeRequest}
    (h : c.AsksNext k log r) : Unsubmitted log := by
  have round (t : Draft) (reply : Option LookupReply) : Unsubmitted (t.round reply) := fun _ => by
    simp [Draft.round, accountRequest]
  cases h with
  | reading | account => exact unsubmitted_nil
  | simulation => exact round _ _
  | submission _ hsettles =>
      intro bytes hmem
      rcases List.mem_append.mp hmem with hmem | hmem
      · exact round _ _ bytes hmem
      · cases hsettles with
        | fixed => cases hmem
        | simulated => simp [simulationRequest] at hmem

/-! ## Equal replies, equal requests -/

/-- The replies to the lookups on a record. -/
def findings (log : List NodeEvent) : List (Option LookupReply) :=
  log.filterMap fun
    | .told (.lookup ..) reply => some reply
    | _ => none

section Unique

variable {c : Connection} {k : Call} {operation : Operation} {w : Wallet} {account : Account}
  {price : GasPrice} {message : TxMessage}

theorem Draft.Found.unique {t t' : Draft} {reply : Option LookupReply} (h : t.Found c k reply)
    (h' : t'.Found c k reply) : t = t' := by
  obtain ⟨sender, message, w, account, price⟩ := t
  obtain ⟨sender', message', w', account', price'⟩ := t'
  obtain ⟨rfl, rfl⟩ := Prod.mk.inj (Option.some.inj (h.message.symm.trans h'.message))
  obtain rfl := Except.ok.inj (h.signer.symm.trans h'.signer)
  obtain rfl := Except.ok.inj (h.account.symm.trans h'.account)
  obtain rfl := Except.ok.inj (h.priced.symm.trans h'.priced)
  rfl

theorem Settles.unique {log log' : List NodeEvent} {limit limit' : UInt64}
    (h : c.Settles operation w account price message log limit)
    (h' : c.Settles operation w account price message log' limit')
    (hfindings : findings log = findings log') : limit = limit' := by
  cases h with
  | fixed hlimit => cases h' with
    | fixed hlimit' => exact Option.some.inj (hlimit.symm.trans hlimit')
    | simulated hlimit' => cases hlimit.symm.trans hlimit'
  | simulated hlimit htx hused => cases h' with
    | fixed hlimit' => cases hlimit.symm.trans hlimit'
    | simulated _ htx' hused' =>
        obtain ⟨rfl, -⟩ := List.cons.inj hfindings
        obtain rfl := Except.ok.inj (hused.symm.trans hused')
        rfl

/-- A simulation has been answered where the network sets no gas limit. -/
theorem Settles.findings_ne_nil {log : List NodeEvent} {limit : UInt64}
    (h : c.Settles operation w account price message log limit)
    (hlimit : c.network.gasLimit = none) : findings log ≠ [] := by
  cases h with
  | fixed hlimit' => cases hlimit.symm.trans hlimit'
  | simulated => exact List.cons_ne_nil _ _

theorem AsksNext.reads {log : List NodeEvent} {r : NodeRequest} (h : c.AsksNext k log r)
    (hk : transaction? k = none) : readRequest? k = some r := by
  cases h with
  | reading hread => exact hread
  | account hmessage => cases hk.symm.trans hmessage
  | simulation hfound => cases hk.symm.trans hfound.message
  | submission hfound => cases hk.symm.trans hfound.message

/-- A request is settled by the replies to the lookups before it. -/
theorem AsksNext.unique {log log' : List NodeEvent} {r r' : NodeRequest} (h : c.AsksNext k log r)
    (h' : c.AsksNext k log' r') (hfindings : findings log = findings log') : r = r' := by
  cases h with
  | reading hread =>
      exact Option.some.inj (hread.symm.trans (h'.reads (transaction?_of_reads hread)))
  | account hmessage => cases h' with
    | reading hread => cases (transaction?_of_reads hread).symm.trans hmessage
    | account hmessage' =>
        obtain ⟨rfl, -⟩ := Prod.mk.inj (Option.some.inj (hmessage.symm.trans hmessage'))
        rfl
    | simulation => cases hfindings
    | submission => cases hfindings
  | simulation hfound hlimit htx => cases h' with
    | reading hread => cases (transaction?_of_reads hread).symm.trans hfound.message
    | account => cases hfindings
    | simulation hfound' _ htx' =>
        obtain ⟨rfl, -⟩ := List.cons.inj hfindings
        obtain rfl := hfound.unique hfound'
        rw [Except.ok.inj (htx.symm.trans htx')]
    | submission _ hsettles' =>
        obtain ⟨-, hnone⟩ := List.cons.inj hfindings
        exact absurd hnone.symm (hsettles'.findings_ne_nil hlimit)
  | submission hfound hsettles htx => cases h' with
    | reading hread => cases (transaction?_of_reads hread).symm.trans hfound.message
    | account => cases hfindings
    | simulation _ hlimit' =>
        obtain ⟨-, hnone⟩ := List.cons.inj hfindings
        exact absurd hnone (hsettles.findings_ne_nil hlimit')
    | submission hfound' hsettles' htx' =>
        obtain ⟨rfl, hsettling⟩ := List.cons.inj hfindings
        obtain rfl := hfound.unique hfound'
        obtain rfl := hsettles.unique hsettles' hsettling
        rw [Except.ok.inj (htx.symm.trans htx')]

end Unique

/-! ## What a call has asked -/

variable {c : Connection} {k : Call} {operation : Operation} {sender : String}
  {message : TxMessage}

theorem account_round {a : Account} {log : List NodeEvent}
    (h : (account operation sender).Transcript log (some (.ok a))) :
    ∃ reply, log = [.asked (accountRequest sender), .told (accountRequest sender) reply]
      ∧ valueIn operation AccountQuery.path reply >>= accountIn operation sender = .ok a := by
  rw [account_eq] at h
  rcases h.of_round with ⟨-, hnone⟩ | ⟨reply, rfl, ha⟩
  · cases hnone
  · exact ⟨reply, rfl, (Option.some.inj ha).symm⟩

theorem settles_of_gasLimit {w : Wallet} {a : Account} {price : GasPrice} {log : List NodeEvent}
    {limit : UInt64}
    (h : (c.gasLimit operation w a price message).Transcript log (some (.ok limit))) :
    c.Settles operation w a price message log limit := by
  rw [gasLimit] at h
  cases hlimit : c.network.gasLimit with
  | some fixed =>
      rw [hlimit] at h
      obtain ⟨rfl, hfixed⟩ := h.of_ends
      obtain rfl := Except.ok.inj (Option.some.inj hfixed)
      exact .fixed hlimit
  | none =>
      rw [hlimit] at h
      obtain ⟨tx, htx, h⟩ := h.of_settled_ok
      obtain ⟨used, round, _, hround, hadjusted, rfl⟩ := h.of_bind_ok
      obtain ⟨rfl, hused⟩ := hadjusted.of_ends
      obtain rfl := Except.ok.inj (Option.some.inj hused)
      rw [simulate_eq] at hround
      rcases hround.of_round with ⟨-, hnone⟩ | ⟨reply, rfl, hfound⟩
      · cases hnone
      · exact .simulated hlimit htx (Option.some.inj hfound).symm

theorem asking_gasLimit {t : Draft} {reply : Option LookupReply} (hfound : t.Found c k reply) :
    Asking (fun before => c.AsksNext k (t.round reply ++ before))
      (c.gasLimit k.operation t.wallet t.account t.price t.message) := by
  rw [gasLimit]
  cases hlimit : c.network.gasLimit with
  | some limit => exact asking_ends (.ok limit)
  | none =>
      refine asking_settled _ fun tx htx => Asking.bind ?_ fun used _ _ => asking_ends (.ok _)
      rw [simulate_eq]
      exact asking_round (.simulation hfound hlimit htx)

theorem asking_transact (hmessage : transaction? k = some (sender, message)) :
    Asking (c.AsksNext k) (c.transact k.operation sender message) := by
  refine asking_settled _ fun w hsigner => Asking.bind ?_ fun a first hfirst => ?_
  · rw [account_eq]
    exact asking_round (.account hmessage hsigner)
  obtain ⟨reply, rfl, haccount⟩ := account_round hfirst
  refine asking_settled _ fun price hpriced => ?_
  have hfound : Draft.Found ⟨sender, message, w, a, price⟩ c k reply :=
    ⟨hmessage, hsigner, haccount, hpriced⟩
  have hgas := asking_gasLimit hfound
  refine hgas.bind fun limit settling hsettling => ?_
  refine asking_settled _ fun tx htx => ?_
  rw [submit_eq]
  refine asking_round ?_
  rw [List.append_nil]
  exact .submission hfound (settles_of_gasLimit hsettling) htx

/-- Whatever the node says, each request of a call is the next one after the record before it. -/
theorem asking_exchange (c : Connection) (k : Call) : Asking (c.AsksNext k) (c.exchange k) := by
  cases htransaction : transaction? k with
  | some transaction =>
      rw [c.exchange_eq htransaction]
      exact (asking_transact htransaction).bind fun o _ _ => asking_ends (reading k o)
  | none =>
      have hreads : k.transacts = false := by rw [← transaction?_isSome, htransaction]; rfl
      obtain ⟨path, data, read, -, -, hrequest, heq⟩ := c.exchange_reads hreads
      rw [heq]
      exact asking_round (.reading hrequest)

end Connection

end Rollout
