import Rollout.Proofs.Chain.Asking
import Rollout.Proofs.Chain.Confirmed

/-!
# The requests of a call

A call follows an agenda. To change the chain it asks for the account of its sender, simulates
unless the network sets the gas, and submits its transaction; to read, it looks one thing up.

What is asked next is settled by the replies so far (`AsksNext`), and it is on the agenda after what
has been asked (`AsksNext.ordered`) and asked only if all replies are favourable
(`AsksNext.earned`). So whatever a node says, the requests on record are a first part of the agenda,
and a refusal is the last word; an answer comes only from the whole agenda (`transact_confirmed`).
The headline is `call_requests`.
-/

namespace Rollout

/-- What a request is made for. -/
inductive Purpose where
  | account
  | simulation
  | reading
  | submission
  | other
deriving DecidableEq

/-- Bytes in which an account is found. -/
def HoldsAccount (bytes : Bytes) : Prop :=
  ∃ found typed account, AccountFound.layout.decode? bytes = some found ∧ found.account = some typed
    ∧ Account.layout.decode? typed.value = some account

/-- Bytes in which the gas of a simulation is found. All of what was found has to be readable, also
the result, which is not used. -/
def HoldsGas (bytes : Bytes) : Prop :=
  ∃ found gas, SimulationFound.layout.decode? bytes = some found ∧ found.gas = some gas

namespace NodeRequest

def purpose : NodeRequest → Purpose
  | lookup path _ =>
    if path = AccountQuery.path then .account
    else if path = SimulationQuery.path then .simulation
    else .reading
  | commit _ => .submission
  | latestBlock | faucet .. => .other

/-- A reply after which a call goes on: the code is zero, and what was asked for is in it. -/
def Favours : (r : NodeRequest) → Option r.Reply → Prop
  | lookup path _, some reply => reply.code = 0
    ∧ (path = AccountQuery.path → HoldsAccount reply.value)
    ∧ (path = SimulationQuery.path → HoldsGas reply.value)
  | commit _, some reply => reply.confirmed
  | latestBlock, some _ | faucet .., some _ => True
  | _, none => False

end NodeRequest

/-- What the requests on a record are made for. -/
def purposes (log : List NodeEvent) : List Purpose :=
  log.filterMap fun
    | .asked r => some r.purpose
    | .told .. => none

@[simp] theorem purposes_asked (r : NodeRequest) (log : List NodeEvent) :
    purposes (.asked r :: log) = r.purpose :: purposes log := rfl

@[simp] theorem purposes_append (log log' : List NodeEvent) :
    purposes (log ++ log') = purposes log ++ purposes log' := List.filterMap_append

theorem mem_purposes {r : NodeRequest} {log : List NodeEvent} (h : .asked r ∈ log) :
    r.purpose ∈ purposes log :=
  List.mem_filterMap.mpr ⟨.asked r, h, rfl⟩

/-- The purposes on a record end with that of the last request. -/
theorem purposes_eq_nil_or_last (log : List NodeEvent) :
    purposes log = [] ∨ ∃ before r after, log = before ++ .asked r :: after
      ∧ purposes log = purposes before ++ [r.purpose] := by
  induction log with
  | nil => exact .inl rfl
  | cons e log ih =>
      rcases ih with hnil | ⟨before, r, after, rfl, hlast⟩
      · cases e with
        | asked r => exact .inr ⟨[], r, log, rfl, by rw [purposes_asked, hnil]; rfl⟩
        | told r reply => exact .inl hnil
      · refine .inr ⟨e :: before, r, after, rfl, ?_⟩
        cases e with
        | asked r' => rw [purposes_asked, hlast, purposes_asked, List.cons_append]
        | told r' reply => exact hlast

/-- A record starts with a request. -/
theorem Exchange.Transcript.eq_cons {e : Exchange α} {log : List NodeEvent}
    {v : Option (Fallible α)} (h : e.Transcript log v) (hlog : log ≠ []) :
    ∃ r after, log = .asked r :: after := by
  cases h with
  | ended result => exact absurd rfl hlog
  | unanswered r next => exact ⟨r, [], rfl⟩
  | @answered r next log v reply h => exact ⟨r, .told r reply :: log, rfl⟩

namespace Connection

open Wire

/-! ## Favourable replies -/

theorem valueIn_ok {operation : Operation} {path : String} {reply : Option LookupReply}
    {bytes : Bytes} (h : valueIn operation path reply = .ok bytes) :
    ∃ found, reply = some found ∧ found.code = 0 ∧ found.value = bytes := by
  cases reply with
  | none => cases h
  | some found =>
      rw [valueIn] at h
      split at h
      · next hcode => exact ⟨found, rfl, hcode, Except.ok.inj h⟩
      · cases h

theorem readAs_ok {l : Layout α} {what : String} {bytes : Bytes} {a : α}
    (h : readAs l what bytes = .ok a) : l.decode? bytes = some a := by
  rw [readAs] at h
  cases hread : l.decode? bytes with
  | some b =>
      rw [hread] at h
      exact congrArg some (Except.ok.inj h)
  | none =>
      rw [hread] at h
      cases h

theorem holdsAccount_of_read {operation : Operation} {address : String} {bytes : Bytes}
    {a : Account} (h : accountIn operation address bytes = .ok a) : HoldsAccount bytes := by
  obtain ⟨found, hfound, h⟩ := bind_eq_ok_iff.mp h
  split at h
  · next typed htyped => exact ⟨found, typed, a, readAs_ok hfound, htyped, readAs_ok h⟩
  · cases h

theorem holdsGas_of_read {operation : Operation} {bytes : Bytes} {used : UInt64}
    (h : gasIn operation bytes = .ok used) : HoldsGas bytes := by
  obtain ⟨found, hfound, h⟩ := bind_eq_ok_iff.mp h
  split at h
  · next gas hgas => exact ⟨found, gas, readAs_ok hfound, hgas⟩
  · cases h

theorem confirmed_of_committed {operation : Operation} {reply : Option CommitReply} {o : TxOutcome}
    (h : committed operation reply = .ok o) : ∃ r, reply = some r ∧ r.confirmed := by
  cases reply with
  | none => cases h
  | some r =>
      rw [committed, outcome] at h
      split at h
      · cases h
      · next hcheck =>
        split at h
        · cases h
        · next hresult =>
          exact ⟨r, rfl, Classical.not_not.mp hcheck, Classical.not_not.mp hresult⟩

/-! ## The agenda of a call -/

/-- A simulation is on the agenda unless the network sets the gas. -/
def simulations (network : Network) : List Purpose :=
  if network.gasLimit.isNone then [.simulation] else []

/-- What a call asks a node, in order. -/
def agenda (c : Connection) (k : Call) : List Purpose :=
  if k.transacts then .account :: (simulations c.network ++ [.submission]) else [.reading]

section Agenda

variable {c : Connection} {k : Call} {operation : Operation} {sender : String} {w : Wallet}
  {account : Account} {price : GasPrice} {message : TxMessage} {log : List NodeEvent}
  {limit : UInt64} {r : NodeRequest}

theorem agenda_of_transaction (h : transaction? k = some (sender, message)) :
    c.agenda k = .account :: (simulations c.network ++ [.submission]) :=
  if_pos (by rw [← transaction?_isSome, h]; rfl)

theorem agenda_of_reads (h : k.transacts = false) : c.agenda k = [.reading] :=
  if_neg (by rw [h]; exact Bool.false_ne_true)

theorem purpose_of_reads (h : readRequest? k = some r) : r.purpose = .reading := by
  cases k with
  | query | balance =>
      obtain rfl := Option.some.inj h
      rfl
  | upload | instantiate | execute | send => cases h

theorem Draft.Found.favours {t : Draft} {reply : Option LookupReply} (h : t.Found c k reply) :
    (accountRequest t.sender).Favours reply := by
  obtain ⟨bytes, hvalue, hread⟩ := bind_eq_ok_iff.mp h.account
  obtain ⟨found, rfl, hcode, rfl⟩ := valueIn_ok hvalue
  exact ⟨hcode, fun _ => holdsAccount_of_read hread, fun hpath => absurd hpath (by decide)⟩

theorem Settles.purposes_eq (h : c.Settles operation w account price message log limit) :
    purposes log = simulations c.network := by
  cases h with
  | fixed hlimit => rw [simulations, hlimit]; rfl
  | simulated hlimit => rw [simulations, hlimit]; rfl

theorem Settles.earned (h : c.Settles operation w account price message log limit) :
    ∀ r reply, .told r reply ∈ log → r.Favours reply := by
  cases h with
  | fixed => exact fun _ _ hmem => absurd hmem List.not_mem_nil
  | @simulated tx reply used _ _ hused =>
      obtain ⟨bytes, hvalue, hread⟩ := bind_eq_ok_iff.mp hused
      obtain ⟨found, rfl, hcode, rfl⟩ := valueIn_ok hvalue
      intro r reply hmem
      rcases List.mem_cons.mp hmem with hasked | htold
      · cases hasked
      cases List.mem_singleton.mp htold
      exact ⟨hcode, fun hpath => absurd hpath (by decide), fun _ => holdsGas_of_read hread⟩

/-- A request is on the agenda, right after what has been asked. -/
theorem AsksNext.ordered (h : c.AsksNext k log r) : purposes log ++ [r.purpose] <+: c.agenda k := by
  cases h with
  | reading hread =>
      have hreads : k.transacts = false := by
        rw [← transaction?_isSome, transaction?_of_reads hread]
        rfl
      rw [agenda_of_reads hreads, purpose_of_reads hread]
      exact List.prefix_rfl
  | account hmessage =>
      rw [agenda_of_transaction hmessage]
      exact ⟨_, rfl⟩
  | simulation hfound hlimit =>
      rw [agenda_of_transaction hfound.message, simulations, hlimit]
      exact ⟨[.submission], rfl⟩
  | submission hfound hsettles =>
      rw [agenda_of_transaction hfound.message, ← hsettles.purposes_eq, purposes_append]
      exact List.prefix_rfl

/-- All replies before a request were favourable. -/
theorem AsksNext.earned (h : c.AsksNext k log r) :
    ∀ r' reply, .told r' reply ∈ log → r'.Favours reply := by
  have round {t : Draft} {reply : Option LookupReply} (hfound : t.Found c k reply) :
      ∀ r' reply', .told r' reply' ∈ t.round reply → r'.Favours reply' := by
    intro r' reply' hmem
    rcases List.mem_cons.mp hmem with hasked | htold
    · cases hasked
    cases List.mem_singleton.mp htold
    exact hfound.favours
  cases h with
  | reading | account => exact fun _ _ hmem => absurd hmem List.not_mem_nil
  | simulation hfound => exact round hfound
  | submission hfound hsettles =>
      intro r' reply hmem
      rcases List.mem_append.mp hmem with hmem | hmem
      · exact round hfound r' reply hmem
      · exact hsettles.earned r' reply hmem

/-- A transaction has an outcome only after its whole agenda, which ends with a confirmation. -/
theorem transact_confirmed {o : TxOutcome}
    (h : (c.transact operation sender message).Transcript log (some (.ok o))) :
    purposes log = .account :: (simulations c.network ++ [.submission])
      ∧ ∃ before tx reply, log = before ++ [.asked (.commit tx), .told (.commit tx) (some reply)]
        ∧ reply.confirmed := by
  obtain ⟨w, -, hsigned⟩ := h.of_settled_ok
  obtain ⟨a, _, later, haccount, hpriced, rfl⟩ := hsigned.of_bind_ok
  obtain ⟨found, rfl, -⟩ := account_round haccount
  obtain ⟨price, -, hlimited⟩ := hpriced.of_settled_ok
  obtain ⟨limit, settling, last, hsettling, hready, rfl⟩ := hlimited.of_bind_ok
  obtain ⟨tx, -, hsubmitted⟩ := hready.of_settled_ok
  rw [submit_eq] at hsubmitted
  rcases hsubmitted.of_round with ⟨-, hnone⟩ | ⟨_, rfl, ho⟩
  · cases hnone
  obtain ⟨reply, rfl, hconfirmed⟩ := confirmed_of_committed (Option.some.inj ho).symm
  refine ⟨?_, _, _, reply, (List.append_assoc _ _ _).symm, hconfirmed⟩
  rw [← (settles_of_gasLimit hsettling).purposes_eq, purposes_append, purposes_append]
  rfl

end Agenda

/-! ## Who signs -/

/-- Without a wallet, or for another sender than the wallet's own, a call that changes the
chain fails before it asks anything. -/
theorem exchange_unsigned (c : Connection) {k : Call} {sender : String} {message : TxMessage}
    (h : transaction? k = some (sender, message)) {f : Failure}
    (hsigner : c.signerFor sender = .error f) : c.exchange k = .ends (.error f) := by
  rw [c.exchange_eq h, transact, hsigner]
  rfl

theorem signerFor_no_wallet (c : Connection) (sender : String) (h : c.wallet = none) :
    c.signerFor sender = .error (.configuration .noWallet) := by
  rw [signerFor, requireWallet, h]
  rfl

theorem signerFor_mismatch (c : Connection) {sender address : String} {w : Wallet}
    (hw : c.wallet = some w) (haddress : w.address = .ok address) (hne : address ≠ sender) :
    c.signerFor sender = .error (.configuration (.senderMismatch sender address)) := by
  rw [signerFor, requireWallet, hw]
  change (w.address >>= fun address => if address = sender then .ok w
    else .error (.configuration (.senderMismatch sender address))) = _
  rw [haddress]
  exact if_neg hne

/-! ## The record of a call -/

/-- What is on record of a call, and what it has ended with, if it has. -/
structure Requested (c : Connection) (k : Call) (log : List NodeEvent)
    (v : Option (Fallible k.Answer)) : Prop where
  transcript : (c.exchange k).Transcript log v
  ordered : purposes log <+: c.agenda k
  /-- What is asked is the next request after the record before it. -/
  next : ∀ before r after, log = before ++ .asked r :: after → c.AsksNext k before r
  /-- A request is made only if all replies before were favourable. -/
  earned : ∀ before r after, log = before ++ .asked r :: after →
    ∀ r' reply, .told r' reply ∈ before → r'.Favours reply
  /-- After a reply that is not favourable nothing is asked. -/
  refused : ∀ before r reply after, log = before ++ .told r reply :: after → ¬r.Favours reply →
    ∀ r', .asked r' ∉ after
  once : (purposes log).count .submission ≤ 1
  unsigned : ∀ sender message, transaction? k = some (sender, message) →
    (c.wallet = none → log = [] ∧ v = some (.error (.configuration .noWallet)))
      ∧ ∀ w address, c.wallet = some w → w.address = .ok address → address ≠ sender →
        log = [] ∧ v = some (.error (.configuration (.senderMismatch sender address)))
  /-- A call that changes the chain has an answer only after a confirmation, and then it has
  asked all that is on its agenda. -/
  confirmed : k.transacts = true → ∀ a, v = some (.ok a) → purposes log = c.agenda k
    ∧ ∃ before tx reply, log = before ++ [.asked (.commit tx), .told (.commit tx) (some reply)]
      ∧ reply.confirmed
  reads : k.transacts = false → (purposes log).length ≤ 1 ∧ ∀ tx, .asked (.commit tx) ∉ log

theorem count_submission_agenda (c : Connection) (k : Call) :
    (c.agenda k).count .submission ≤ 1 := by
  rw [agenda, simulations]
  split
  · split <;> decide
  · decide

/-- What every transcript of a call looks like. -/
theorem requested (c : Connection) {k : Call} {log : List NodeEvent}
    {v : Option (Fallible k.Answer)} (h : (c.exchange k).Transcript log v) : c.Requested k log v := by
  have hasking := c.asking_exchange k log v h
  have ordered : purposes log <+: c.agenda k := by
    rcases purposes_eq_nil_or_last log with hnil | ⟨before, r, after, hlog, hlast⟩
    · rw [hnil]
      exact List.nil_prefix
    · rw [hlast]
      exact (hasking before r after hlog).ordered
  have unsigned {sender : String} {message : TxMessage} {f : Failure}
      (hmessage : transaction? k = some (sender, message)) (hf : c.signerFor sender = .error f) :
      log = [] ∧ v = some (.error f) := by
    rw [c.exchange_unsigned hmessage hf] at h
    exact h.of_ends
  exact
    { transcript := h
      ordered := ordered
      next := hasking
      earned := fun before r after hlog => (hasking before r after hlog).earned
      refused := by
        intro before r reply after hlog hno r' hmem
        obtain ⟨between, rest, rfl⟩ := List.append_of_mem hmem
        have hnext := hasking (before ++ .told r reply :: between) r' rest
          (by rw [hlog, List.append_assoc, List.cons_append])
        exact hno (hnext.earned r reply (by simp))
      once := Nat.le_trans (ordered.sublist.count_le _) (c.count_submission_agenda k)
      unsigned := fun sender message hmessage =>
        ⟨fun hw => unsigned hmessage (c.signerFor_no_wallet sender hw),
          fun w address hw haddress hne =>
            unsigned hmessage (c.signerFor_mismatch hw haddress hne)⟩
      confirmed := by
        intro hk a ha
        obtain ⟨⟨sender, message⟩, hmessage⟩ :=
          Option.isSome_iff_exists.mp ((transaction?_isSome k).trans hk)
        rw [c.exchange_eq hmessage, ha] at h
        obtain ⟨o, first, _, hfirst, hread, rfl⟩ := h.of_bind_ok
        obtain ⟨rfl, -⟩ := hread.of_ends
        rw [List.append_nil, agenda_of_transaction hmessage]
        exact transact_confirmed hfirst
      reads := by
        intro hk
        rw [agenda_of_reads hk] at ordered
        refine ⟨ordered.length_le, fun tx hmem => ?_⟩
        exact absurd (ordered.subset (mem_purposes hmem)) (by simp [NodeRequest.purpose]) }

/-- The requests of a call, whatever the node says and whenever the call is cut off: they follow the
agenda of the call, each is earned by favourable replies to all before it, and what is asked next is
settled by the replies so far, at any node. -/
theorem call_requests (c : Connection) (k : Call) :
    (∀ {σ : Type} (n : Node σ) (now : Nat) (w : Recorded σ),
      ((c.client n.recorded).call k now w).Meets
        (fun q => ∃ log, q.1 = w.1 ++ log ∧ c.Requested k log none)
        fun r q => ∃ log, q.1 = w.1 ++ log ∧ c.Requested k log (some r))
    ∧ ∀ {log log' : List NodeEvent} {r r' : NodeRequest}, c.AsksNext k log r →
      c.AsksNext k log' r' → findings log = findings log' → r = r' := by
  refine ⟨fun n now w => ?_, AsksNext.unique⟩
  refine ((c.exchange k).hold_recorded n now w).weaken ?_ ?_
  · rintro q ⟨log, hlog, h⟩
    exact ⟨log, hlog, c.requested h⟩
  · rintro r q ⟨log, hlog, h⟩
    exact ⟨log, hlog, c.requested h⟩

/-- At a silent node of the network that is built in, coins are sent with an account, a simulation and
one transaction. The account is that of the sender. -/
theorem call_requests_of_send :
    let w : Wallet := ⟨⟨1, by decide, by decide⟩, "osmo", by decide⟩
    let c : Connection := ⟨.builtIn, some w⟩
    ∃ sender log after, c.signerFor sender = .ok w
      ∧ (c.client (Node.prompt silentReply).recorded).call (.send sender "osmo1to" []) 0 ([], ()) =
        .ends (.ok silentOutcome) (log, ())
      ∧ c.Requested (.send sender "osmo1to" []) log (some (.ok silentOutcome))
      ∧ purposes log = [.account, .simulation, .submission]
      ∧ log = .asked (accountRequest sender) :: after := by
  intro w c
  obtain ⟨sender, price, hsigns⟩ := Connection.signs_builtIn (w := w) (by decide)
  let k : Call := .send sender "osmo1to" []
  obtain ⟨hrequests, hunique⟩ := call_requests c k
  obtain ⟨before, tx, hplay⟩ := hsigns.play_transact .send (.send ⟨sender, "osmo1to", []⟩)
  have hcall := (c.exchange k).hold_prompt silentReply 0 ([], ())
  rw [show (c.exchange k).play silentReply = _ from hplay, List.nil_append] at hcall
  have hmeets := hrequests (Node.prompt silentReply) 0 ([], ())
  rw [show (c.client (Node.prompt silentReply).recorded).call k 0 ([], ()) = _ from hcall] at hmeets
  obtain ⟨log, hlog, hrequested⟩ := hmeets
  obtain rfl : _ = log := hlog
  have hpurposes := (hrequested.confirmed rfl _ rfl).1
  obtain ⟨r, after, hfirst⟩ := hrequested.transcript.eq_cons (by simp)
  have hasked : c.AsksNext k [] r := hrequested.next [] r after hfirst
  have haccount : c.AsksNext k [] (accountRequest sender) := .account rfl hsigns.signer
  obtain rfl := hunique hasked haccount rfl
  exact ⟨sender, _, after, hsigns.signer, hcall, hrequested, hpurposes, hfirst⟩

end Connection

end Rollout
