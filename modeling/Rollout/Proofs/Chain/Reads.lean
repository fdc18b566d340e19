import Rollout.Proofs.Chain.Requests

/-!
# How a read fails

A query and a balance take one lookup each, and its reply settles how they end. Without a reply,
or with one in which nothing is found, the connection has failed; a code other than zero is a
rejection with the log of the node. So it is for every reply, however malformed, except one:
if a contract's answer is found and is no JSON, the failure is that of a value that cannot be
read, and counts as one of the configuration (`call_reads`, `query_misread`).
-/

namespace Rollout

/-- Bytes in which the answer of a contract is found that is no JSON. -/
def Garbled (bytes : Bytes) : Prop :=
  ∃ found, ContractFound.layout.decode? bytes = some found
    ∧ (Text.ofBytes? found.data).bind Json.parse? = none

/-- How a read ends with a reply, `unread` being what is taken for a fault of the configuration. -/
structure ReadEnds (unread : Bytes → Prop) (reply : Option LookupReply) (r : Fallible α) :
    Prop where
  lost : reply = none → ∃ reason, r = .error (.connection reason)
  refused : ∀ found, reply = some found → found.code ≠ 0 → r = .error (.queryRejected found.log)
  failed : ∀ f, r = .error f → f.kind = .queryRejected ∨ f.kind = .connectionFailure
    ∨ ∃ found, reply = some found ∧ found.code = 0 ∧ unread found.value
  misread : ∀ found, reply = some found → found.code = 0 → unread found.value →
    ∃ f, r = .error f ∧ f.kind = .configError

namespace Connection

/-- A call of a single round ends with what is read in the reply. -/
theorem meets_round {c : Connection} {k : Call} {r : NodeRequest}
    {read : Option r.Reply → Fallible k.Answer}
    (hexchange : c.exchange k = .asks r fun reply => .ends (read reply)) (n : Node σ) (now : Nat)
    (w : Recorded σ) :
    ((c.client n.recorded).call k now w).Meets (fun _ => True) fun v q =>
      ∃ reply, q.1 = w.1 ++ [.asked r, .told r reply] ∧ v = read reply := by
  have hrecorded := (c.exchange k).hold_recorded n now w
  refine Course.Meets.weaken (fun _ _ => trivial) (fun v q hq => ?_) hrecorded
  obtain ⟨log, hlog, htranscript⟩ := hq
  rw [hexchange] at htranscript
  rcases htranscript.of_round with ⟨-, hnone⟩ | ⟨reply, rfl, hv⟩
  · cases hnone
  · exact ⟨reply, hlog, Option.some.inj hv⟩

/-! ## Reading a reply -/

theorem readEnds_of_read {operation : Operation}
    (hoperation : ∀ log, Failure.rejected operation log = .queryRejected log) (path : String)
    {read : Bytes → Fallible α} {unread : Bytes → Prop}
    (hfailed : ∀ bytes f, read bytes = .error f →
      f.kind = .queryRejected ∨ f.kind = .connectionFailure ∨ unread bytes)
    (hmisread : ∀ bytes, unread bytes → ∃ f, read bytes = .error f ∧ f.kind = .configError)
    (reply : Option LookupReply) : ReadEnds unread reply (valueIn operation path reply >>= read) := by
  cases reply with
  | none =>
      refine ⟨fun _ => ⟨_, rfl⟩, nofun, fun f hf => ?_, nofun⟩
      obtain rfl := Except.error.inj hf
      exact .inr (.inl rfl)
  | some found =>
      by_cases hcode : found.code = 0
      · have hvalue : valueIn operation path (some found) = .ok found.value := if_pos hcode
        rw [hvalue]
        refine ⟨nofun, fun found' h hno => ?_, fun f hf => ?_, fun found' h _ hunread => ?_⟩
        · obtain rfl := Option.some.inj h
          exact absurd hcode hno
        · rcases hfailed found.value f hf with hrejected | hbroken | hunread
          · exact .inl hrejected
          · exact .inr (.inl hbroken)
          · exact .inr (.inr ⟨found, rfl, hcode, hunread⟩)
        · obtain rfl := Option.some.inj h
          exact hmisread found.value hunread
      · have hvalue : valueIn operation path (some found) = .error (.queryRejected found.log) := by
          rw [valueIn, if_neg hcode, hoperation]
        rw [hvalue]
        refine ⟨nofun, fun found' h _ => ?_, fun f hf => ?_, fun found' h hzero _ => ?_⟩
        · obtain rfl := Option.some.inj h
          rfl
        · obtain rfl := Except.error.inj hf
          exact .inl rfl
        · obtain rfl := Option.some.inj h
          exact absurd hzero hcode

/-- Bytes from which nothing can be read are a failure of the connection. -/
theorem kind_of_readAs {l : Wire.Layout α} {what : String} {bytes : Bytes} {f : Failure}
    (h : readAs l what bytes = .error f) : f.kind = .connectionFailure := by
  rw [readAs] at h
  cases hread : l.decode? bytes with
  | some a =>
      rw [hread] at h
      cases h
  | none =>
      rw [hread] at h
      obtain rfl := Except.error.inj h
      rfl

theorem contractResponse_of_found {bytes : Bytes} {found : ContractFound}
    (h : ContractFound.layout.decode? bytes = some found) :
    contractResponse bytes = match (Text.ofBytes? found.data).bind Json.parse? with
      | some v => .ok v
      | none => .error (.serialization .mismatch) := by
  have hread : readAs ContractFound.layout "query response" bytes = .ok found := by
    rw [readAs, h]
  rw [contractResponse, hread]
  rfl

theorem contractResponse_failed {bytes : Bytes} {f : Failure}
    (h : contractResponse bytes = .error f) :
    f.kind = .queryRejected ∨ f.kind = .connectionFailure ∨ Garbled bytes := by
  cases hread : readAs ContractFound.layout "query response" bytes with
  | error f' =>
      rw [contractResponse, hread] at h
      obtain rfl := Except.error.inj h
      exact .inr (.inl (kind_of_readAs hread))
  | ok found =>
      have hfound := readAs_ok hread
      rw [contractResponse_of_found hfound] at h
      split at h
      · cases h
      · next hdata => exact .inr (.inr ⟨found, hfound, hdata⟩)

theorem contractResponse_garbled {bytes : Bytes} (h : Garbled bytes) :
    contractResponse bytes = .error (.serialization .mismatch) := by
  obtain ⟨found, hfound, hdata⟩ := h
  rw [contractResponse_of_found hfound, hdata]

theorem foundBalance_failed {denom : String} {bytes : Bytes} {f : Failure}
    (h : foundBalance denom bytes = .error f) :
    f.kind = .queryRejected ∨ f.kind = .connectionFailure := by
  cases hread : readAs BalanceFound.layout "balance response" bytes with
  | error f' =>
      rw [foundBalance, hread] at h
      obtain rfl := Except.error.inj h
      exact .inr (kind_of_readAs hread)
  | ok found =>
      rw [foundBalance, hread] at h
      simp only [bind, Except.bind] at h
      split at h
      · cases h
      · obtain rfl := Except.error.inj h
        exact .inl rfl

/-! ## Queries and balances -/

/-- At every node, queries and balances end with what their one reply says. A balance fails with a
rejection or a failure of the connection, and so does a query, unless the answer of the contract
is found and is no JSON: that is reported as a fault of the configuration. -/
theorem call_reads (c : Connection) (n : Node σ) (now : Nat) (w : Recorded σ) :
    (∀ contract msg, ((c.client n.recorded).call (.query contract msg) now w).Meets (fun _ => True)
        fun r q => ∃ reply : Option LookupReply,
          q.1 = w.1 ++ [.asked (queryRequest contract msg), .told (queryRequest contract msg) reply]
            ∧ ReadEnds Garbled reply r)
      ∧ ∀ address denom, ((c.client n.recorded).call (.balance address denom) now w).Meets
        (fun _ => True) fun r q => ∃ reply : Option LookupReply,
          q.1 = w.1 ++ [.asked (balanceRequest address denom),
              .told (balanceRequest address denom) reply]
            ∧ ReadEnds (fun _ => False) reply r := by
  refine ⟨fun contract msg => ?_, fun address denom => ?_⟩
  · have hexchange : c.exchange (.query contract msg) =
        .asks (queryRequest contract msg) fun reply =>
          .ends (valueIn .query ContractQuery.path reply >>= contractResponse) :=
      lookup_bind .query ContractQuery.path _ contractResponse
    refine Course.Meets.weaken (fun _ h => h) (fun r q hq => ?_)
      (meets_round hexchange n now w)
    obtain ⟨reply, hlog, rfl⟩ := hq
    refine ⟨reply, hlog, readEnds_of_read (fun _ => rfl) _ (fun _ _ => contractResponse_failed)
      (fun bytes h => ?_) reply⟩
    exact ⟨_, contractResponse_garbled h, rfl⟩
  · have hexchange : c.exchange (.balance address denom) =
        .asks (balanceRequest address denom) fun reply =>
          .ends (valueIn .balance BalanceQuery.path reply >>= foundBalance denom) :=
      lookup_bind .balance BalanceQuery.path _ (foundBalance denom)
    refine Course.Meets.weaken (fun _ h => h) (fun r q hq => ?_)
      (meets_round hexchange n now w)
    obtain ⟨reply, hlog, rfl⟩ := hq
    refine ⟨reply, hlog, readEnds_of_read (fun _ => rfl) _ (fun bytes f h => ?_)
      (fun _ => False.elim) reply⟩
    rcases foundBalance_failed h with hrejected | hbroken
    · exact .inl hrejected
    · exact .inr (.inl hbroken)

/-- A node whose contracts all answer with the bytes of a word. -/
def garbledReply : (r : NodeRequest) → Option r.Reply
  | .lookup .. => some ⟨0, "", [0x0A, 0x03, 0x6F, 0x6F, 0x70]⟩
  | .commit .. | .latestBlock | .faucet .. => none

theorem garbled_word : Garbled [0x0A, 0x03, 0x6F, 0x6F, 0x70] :=
  ⟨⟨[0x6F, 0x6F, 0x70]⟩, by decide +kernel, by decide +kernel⟩

/-- A contract's answer that is no JSON is reported as a fault of the configuration. -/
theorem query_misread :
    ∃ f, ((⟨.builtIn, none⟩ : Connection).client (Node.prompt garbledReply)).call
        (.query "osmo1swap" (.obj [])) 0 () = .ends (.error f) ()
      ∧ f.kind = .configError ∧ f.kind ≠ .queryRejected ∧ f.kind ≠ .connectionFailure := by
  have hexchange : (⟨.builtIn, none⟩ : Connection).exchange (.query "osmo1swap" (.obj [])) =
      .asks (queryRequest "osmo1swap" (.obj [])) fun reply =>
        .ends (valueIn .query ContractQuery.path reply >>= contractResponse) :=
    lookup_bind .query ContractQuery.path _ contractResponse
  have hcall : ((⟨.builtIn, none⟩ : Connection).client (Node.prompt garbledReply)).call
      (.query "osmo1swap" (.obj [])) 0 () =
        .ends (contractResponse [0x0A, 0x03, 0x6F, 0x6F, 0x70]) () :=
    congrArg (fun e => e.hold (Node.prompt garbledReply) 0 ()) hexchange
  rw [contractResponse_garbled garbled_word] at hcall
  exact ⟨_, hcall, rfl, by decide, by decide⟩

end Connection

end Rollout
