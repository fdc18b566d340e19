import Rollout.Proofs.Chain.SilentNode
import Rollout.Proofs.Chain.Transaction

/-!
# Confirmed transactions

A transaction is not submitted twice within one attempt. But the client reads its answer in
the events of the transaction, and a confirmed transaction without the event it looks for is a
failure of the connection to it, which may pass: while attempts are left the whole operation
is then made again, with a transaction of its own. `call_after_confirmed` says exactly what
follows a confirmation on the record of a call. `call_resubmits` is the other side: with a
second attempt, any upload or instantiation that can be signed is submitted again at a silent
node.
-/

namespace Rollout

/-- The chain has accepted a transaction and carried it out. -/
def CommitReply.confirmed (r : CommitReply) : Prop := r.check.code = 0 ∧ r.result.code = 0

namespace Connection

/-- What is read of a confirmed transaction. -/
theorem answerTo_of_confirmed (k : Call) {reply : CommitReply} (h : reply.confirmed) :
    ∃ o, answerTo k (some reply) = reading k o := by
  obtain ⟨o, ho⟩ : ∃ o, outcome k.operation reply = .ok o :=
    ⟨_, (if_neg (not_not_intro h.1)).trans (if_neg (not_not_intro h.2))⟩
  refine ⟨o, ?_⟩
  rw [answerTo, committed, ho]
  rfl

/-- A problem with reading a confirmed transaction counts as one of the connection. -/
theorem retryable_of_answerTo {k : Call} (hk : k.transacts = true) {reply : CommitReply}
    (hconfirmed : reply.confirmed) {f : Failure} (h : answerTo k (some reply) = .error f) :
    f.retryable = true := by
  obtain ⟨o, ho⟩ := answerTo_of_confirmed k hconfirmed
  rw [ho] at h
  cases k with
  | upload sender wasm =>
      simp only [reading, storedCode] at h
      split at h
      · cases h
        rfl
      · split at h
        · cases h
        · cases h
          rfl
  | instantiate sender codeId msg label funds =>
      simp only [reading, instantiatedContract] at h
      split at h <;> cases h
      rfl
  | execute | send => cases h
  | query | balance => cases hk

end Connection

/-! ## Replies and attempts -/

/-- What follows the reply to a submitted transaction on the record of a call: `before` and
`after` are the record around the reply, `left` is how many attempts may follow the first one,
`answer` is what the call makes of the reply, and `result` is what it ends with. -/
structure AfterReply (left : Nat) (before after : List NodeEvent) (answer result : Fallible α) :
    Prop where
  attempts : 1 ≤ before.countP NodeEvent.asksAccount ∧ before.countP NodeEvent.asksAccount ≤ left + 1
  /-- An answer ends the call. -/
  read : ∀ a, answer = .ok a → after = [] ∧ result = .ok a
  /-- Without one, there is another attempt as long as any is left. -/
  again : ∀ f, answer = .error f → before.countP NodeEvent.asksAccount ≤ left →
    ∃ data rest, after = .asked (.lookup AccountQuery.path data) :: rest
  last : ∀ f, answer = .error f → left < before.countP NodeEvent.asksAccount →
    after = [] ∧ result = .error f

namespace AfterReply

variable {left : Nat} {part before after : List NodeEvent} {answer result : Fallible α}

/-- A reply to the last attempt decides the call. -/
theorem of_last (hcount : before.countP NodeEvent.asksAccount = 1)
    (hlast : ∀ f, answer = .error f → left = 0) : AfterReply left before [] answer answer where
  attempts := by omega
  read _ ha := ⟨rfl, ha⟩
  again f hf hle := by
    have := hlast f hf
    omega
  last _ hf _ := ⟨rfl, hf⟩

/-- After a reply without an answer, another attempt begins. -/
theorem of_again {f : Failure} {data : Bytes} {rest : List NodeEvent}
    (hcount : before.countP NodeEvent.asksAccount = 1) (hanswer : answer = .error f) :
    AfterReply (left + 1) before (.asked (.lookup AccountQuery.path data) :: rest) answer
      result where
  attempts := by omega
  read _ ha := by cases hanswer.symm.trans ha
  again _ _ _ := ⟨data, rest, rfl⟩
  last _ _ hlt := by omega

/-- What follows a reply is the same with one more attempt before it. -/
theorem later (h : AfterReply left before after answer result)
    (hone : part.countP NodeEvent.asksAccount = 1) :
    AfterReply (left + 1) (part ++ before) after answer result := by
  have hcount : (part ++ before).countP NodeEvent.asksAccount =
      before.countP NodeEvent.asksAccount + 1 := by
    rw [List.countP_append, hone, Nat.add_comm]
  have hbounds := h.attempts
  exact
    { attempts := by omega
      read := h.read
      again := fun f hf hle => h.again f hf (by omega)
      last := fun f hf hlt => h.last f hf (by omega) }

end AfterReply

namespace Exchange

/-- What follows the reply to a transaction, over all attempts. -/
theorem Attempts.after_reply {answer : Option CommitReply → Fallible α} {late : Failure}
    {data : Bytes} {next : Option LookupReply → Exchange α}
    (hnext : ∀ reply, (next reply).Finishes answer) {left : Nat} {log : List NodeEvent}
    {result : Fallible α}
    (h : (asks (.lookup AccountQuery.path data) next).Attempts late left log result) :
    (∃ rest, log = .asked (.lookup AccountQuery.path data) :: rest)
      ∧ ∀ before tx reply after, log = before ++ .told (.commit tx) reply :: after →
        (∀ f, answer reply = .error f → f.retryable = true) →
          AfterReply left before after (answer reply) result := by
  induction h with
  | last h hlast =>
      obtain ⟨hfirst, -, htold⟩ := transcript_of_finishes hnext h
      refine ⟨hfirst, fun before tx reply after hlog hretry => ?_⟩
      obtain ⟨rfl, rfl, hcount⟩ := htold before tx reply after hlog
      exact .of_last hcount fun f hf => hlast f hf (hretry f hf)
  | again h hf _ _ ih =>
      obtain ⟨⟨tail, hfirst⟩, hone, htold⟩ := transcript_of_finishes hnext h
      obtain ⟨⟨tail', hnextfirst⟩, ih⟩ := ih
      refine ⟨⟨_, by rw [hfirst, List.cons_append]⟩, fun before tx reply after hlog hretry => ?_⟩
      rcases List.append_eq_append_iff.mp hlog with ⟨more, rfl, hmore⟩ | ⟨more, hmine, hmore⟩
      · -- the reply is one to a later attempt
        exact (ih more tx reply after hmore hretry).later hone
      · -- it is one to this attempt, unless the next one begins with it
        rcases more with _ | ⟨event, more⟩
        · rw [hnextfirst, List.nil_append] at hmore
          cases (List.cons.inj hmore).1
        · obtain ⟨rfl, rfl⟩ := List.cons.inj hmore
          obtain ⟨rfl, rfl, hcount⟩ := htold before tx reply more hmine
          exact hnextfirst ▸ .of_again hcount hf

/-- An exchange that fails at once leaves no record, however often it is made. -/
theorem Attempts.log_of_ends {late : Failure} {r : Fallible α} {left : Nat} {log : List NodeEvent}
    {result : Fallible α} (h : (ends r).Attempts late left log result) : log = [] := by
  induction h with
  | last h _ =>
      cases h
      rfl
  | again h _ _ _ ih =>
      cases h
      exact ih

end Exchange

/-! ## What follows a confirmation -/

/-- A transaction is submitted although one is confirmed on the record before. -/
def Resubmits (log : List NodeEvent) : Prop :=
  ∃ before tx reply after tx', log = before ++ .told (.commit tx) (some reply) :: after
    ∧ reply.confirmed ∧ .asked (.commit tx') ∈ after

namespace Deployment

/-- What follows the confirmation of a transaction in the record of its call. If the client
finds its answer in the confirmation, nothing more is asked. If it does not, the call is made
again from the start as long as attempts are left. So a call submits a transaction after a
confirmation only if the client could not read the confirmation and the policy has more than
one attempt. -/
theorem call_after_confirmed (d : Deployment σ) (c : Connection) (n : Node σ) (k : Call)
    (hk : k.transacts = true) (now : Nat) (p : Progress (Recorded σ)) :
    ∃ result t q log, ((d.through c n).call k).result now p = ⟨some result, t, q⟩
      ∧ q.world.1 = p.world.1 ++ log
      ∧ (∀ before tx reply after, log = before ++ .told (.commit tx) (some reply) :: after →
        reply.confirmed → AfterReply d.policy.retry.maxRetries.toNat before after
          (Connection.answerTo k (some reply)) result)
      ∧ (Resubmits log → 0 < d.policy.retry.maxRetries.toNat
        ∧ ∃ tx reply f, .told (.commit tx) (some reply) ∈ log ∧ reply.confirmed
          ∧ Connection.answerTo k (some reply) = .error f) := by
  obtain ⟨result, t, q, log, hrun, hlog, hattempts⟩ := d.call_attempts c n k now p
  have hfollows : ∀ before tx reply after,
      log = before ++ .told (.commit tx) (some reply) :: after → reply.confirmed →
        AfterReply d.policy.retry.maxRetries.toNat before after
          (Connection.answerTo k (some reply)) result := by
    intro before tx reply after hsplit hconfirmed
    have htransacts := c.transacts_exchange k hk
    cases he : c.exchange k with
    | ends r =>
        rw [he] at hattempts
        rw [hattempts.log_of_ends] at hsplit
        exact absurd hsplit (by simp)
    | asks r next =>
        rw [he] at hattempts htransacts
        cases htransacts with
        | asks data hnext =>
            refine (hattempts.after_reply hnext).2 before tx (some reply) after hsplit fun f hf => ?_
            exact Connection.retryable_of_answerTo hk hconfirmed hf
  refine ⟨result, t, q, log, hrun, hlog, hfollows, ?_⟩
  rintro ⟨before, tx, reply, after, tx', hsplit, hconfirmed, hmem⟩
  have hafter := hfollows before tx reply after hsplit hconfirmed
  have hne : after ≠ [] := List.ne_nil_of_mem hmem
  cases hanswer : Connection.answerTo k (some reply) with
  | ok a => exact absurd (hafter.read a hanswer).1 hne
  | error f =>
      refine ⟨?_, tx, reply, f, by rw [hsplit]; simp, hconfirmed, hanswer⟩
      refine Nat.pos_of_ne_zero fun hzero => hne ?_
      exact (hafter.last f hanswer (by have := hafter.attempts; omega)).1

/-- Without a second attempt, an upload that is confirmed at a silent node fails and is not
submitted again. -/
theorem call_after_confirmed_of_standard :
    let w : Wallet := ⟨⟨1, by decide, by decide⟩, "osmo", by decide⟩
    let c : Connection := ⟨.builtIn, some w⟩
    ∃ sender, c.signerFor sender = .ok w ∧
      let d : Deployment Unit := ⟨c.client (Node.prompt silentReply), sender, .standard, ⟨[], []⟩⟩
      ∃ result t q, ((d.through c (Node.prompt silentReply)).call (.upload sender [0])).result 0
          (.start ([], ())) = ⟨some result, t, q⟩
        ∧ (∃ tx, .told (.commit tx) (some silentCommit) ∈ q.world.1) ∧ ¬Resubmits q.world.1 := by
  intro w c
  obtain ⟨sender, price, hsigns⟩ := Connection.signs_builtIn (w := w) (by decide)
  refine ⟨sender, hsigns.signer, ?_⟩
  intro d
  obtain ⟨f, before, tx, hretry, hplay⟩ := hsigns.play_exchange (.inl ⟨[0], rfl⟩)
  obtain ⟨t, q, hrun, hrecord⟩ := d.perform_prompt c silentReply hplay hretry 0 0 0 (.start ([], ()))
  obtain ⟨result, t', q', log, hcall, hlog, -, honly⟩ := d.call_after_confirmed c
    (Node.prompt silentReply) (.upload sender [0]) rfl 0 (.start ([], ()))
  obtain ⟨-, -, rfl⟩ := Timed.Result.mk.inj (hrun.symm.trans hcall)
  refine ⟨result, t', q, hcall, ⟨tx, ?_⟩, fun h => ?_⟩
  · rw [hrecord]
    simp
  · rw [hlog] at h
    exact absurd (honly h).1 (show ¬0 < UInt32.toNat 0 by decide)

/-- With a second attempt, an upload or an instantiation that can be signed is submitted again at a
silent node after it has been confirmed. -/
theorem call_resubmits (d : Deployment σ) (c : Connection) {sender : String} {w : Wallet}
    {price : GasPrice} (h : c.Signs sender w price) {k : Call}
    (hk : (∃ wasm, k = .upload sender wasm)
      ∨ ∃ codeId msg label funds, k = .instantiate sender codeId msg label funds)
    (hretries : 0 < d.policy.retry.maxRetries.toNat) (now : Nat) (p : Progress (Recorded σ)) :
    ∃ f t q log, ((d.through c (Node.prompt silentReply)).call k).result now p =
        ⟨some (.error f), t, q⟩
      ∧ q.world.1 = p.world.1 ++ log ∧ Resubmits log := by
  obtain ⟨f, before, tx, hretry, hplay⟩ := h.play_exchange hk
  obtain ⟨t, q, hrun, hlog⟩ := d.perform_prompt c silentReply hplay hretry
    d.policy.retry.maxRetries.toNat 0 now p
  obtain ⟨left, hleft⟩ := Nat.exists_eq_succ_of_ne_zero (Nat.ne_of_gt hretries)
  rw [hleft, List.replicate_succ, List.replicate_succ, List.flatten_cons, List.flatten_cons] at hlog
  refine ⟨f, t, q, _, hrun, hlog, before ++ [.asked (.commit tx)], tx, silentCommit,
    before ++ [.asked (.commit tx), .told (.commit tx) (some silentCommit)] ++
      (List.replicate left (before ++
        [.asked (.commit tx), .told (.commit tx) (some silentCommit)])).flatten,
    tx, ?_, ⟨rfl, rfl⟩, ?_⟩
  · simp only [List.append_assoc, List.cons_append, List.nil_append]
  · simp

/-- On the network that is built in and with one more attempt, a wallet uploads its code twice. -/
theorem upload_resubmitted :
    let w : Wallet := ⟨⟨1, by decide, by decide⟩, "osmo", by decide⟩
    let c : Connection := ⟨.builtIn, some w⟩
    ∃ sender, c.signerFor sender = .ok w ∧
      let d : Deployment Unit := ⟨c.client (Node.prompt silentReply), sender,
        { RunPolicy.standard with retry := ⟨1, 0, 1.0⟩ }, ⟨[], []⟩⟩
      ∃ f t q, ((d.through c (Node.prompt silentReply)).call (.upload sender [0])).result 0
          (.start ([], ())) = ⟨some (.error f), t, q⟩ ∧ Resubmits q.world.1 := by
  intro w c
  obtain ⟨sender, price, hsigns⟩ := Connection.signs_builtIn (w := w) (by decide)
  refine ⟨sender, hsigns.signer, ?_⟩
  intro d
  obtain ⟨f, t, q, log, hrun, hlog, hresubmits⟩ := d.call_resubmits c hsigns (.inl ⟨[0], rfl⟩)
    (show 0 < UInt32.toNat 1 by decide) 0 (.start ([], ()))
  refine ⟨f, t, q, hrun, ?_⟩
  rw [hlog]
  exact hresubmits

end Deployment

end Rollout
