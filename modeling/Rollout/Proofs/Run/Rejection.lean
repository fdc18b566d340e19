import Rollout.Proofs.Chain.Refusal
import Rollout.Proofs.Chain.SilentNode
import Rollout.Proofs.Run.FirstFailure

/-!
# Rejections up to the report

What a node says when it refuses goes unchanged through all layers: the call ends with the
rejection of its operation, the operation leaves a report with the log and the kind of that
rejection, and if it is the first failure of a scenario that is not cut off, the report of the
scenario has the same text and the same kind. A reply counts if it is on the record: one that
comes after the time for its attempt never gets there.

`job_verbatim` is the law of every operation and step, and `report_of_firstFailure` carries the
first failure on to the report of its scenario. The headline is `rejection_verbatim`.
-/

namespace Rollout

/-- The operation that a job makes. -/
def Job.operation : Job α → Operation
  | upload .. | uploadArtifact .. => .upload
  | instantiate .. => .instantiate
  | query .. | queryManager .. => .query
  | balance .. => .balance
  | send .. => .send
  | execute .. | instantiateSwap .. | instantiateToken .. | swapTokens .. | redeemTokens .. =>
    .execute
  | step s => s.operation

/-! ## Moves of one operation -/

namespace Move

/-- A move calls for one operation and fails only as befits it. -/
def Serves (operation : Operation) : Move α → Prop
  | .fails _ f => f.Befits operation
  | .calls c _ _ _ value => c.operation = operation ∧ ∀ a, Befitting operation (value a)

variable {operation : Operation}

theorem serves_plain {c : Call} (h : c.operation = operation) (role : Option String)
    (found : c.Answer → List Finding) : (plain c role found).Serves operation :=
  ⟨h, befitting_ok⟩

theorem serves_needs {report : Option (Operation × Option String)} {need : Fallible β}
    {next : β → Move α} (hneed : Befitting operation need)
    (hnext : ∀ b, (next b).Serves operation) : (needs report need next).Serves operation := by
  cases need with
  | ok b => exact hnext b
  | error f => exact hneed f rfl

theorem Serves.followed {m : Move α} (hm : m.Serves operation) {found : α → List Finding}
    {notes : α → List String} {value : α → Fallible β}
    (hvalue : ∀ a, Befitting operation (value a)) :
    (m.followed found notes value).Serves operation := by
  cases m with
  | fails report f => exact hm
  | calls c role found' notes' value' => exact ⟨hm.1, fun a => (hm.2 a).bind hvalue⟩

theorem befitting_codeId (g : Registry) (role : String) : Befitting operation (g.codeId role) := by
  rw [Registry.codeId_eq]
  split
  · exact befitting_ok _
  · exact befitting_error fun _ => nofun

theorem befitting_address (g : Registry) (role : String) :
    Befitting operation (g.address role) := by
  rw [Registry.address_eq]
  split
  · exact befitting_ok _
  · exact befitting_error fun _ => nofun

variable (d : Deployment σ) (g : Registry)

theorem serves_execute (role : String) (msg : Json) (funds : List Coin) :
    (execute d g role msg funds).Serves .execute :=
  serves_needs (befitting_address g role) fun _ => serves_plain rfl _ _

theorem serves_query (role : String) (msg : Json) : (query g role msg).Serves .query :=
  serves_needs (befitting_address g role) fun _ => serves_plain rfl _ _

theorem serves_instantiate (role : String) (msg : Json) (label : Option String)
    (funds : List Coin) : (instantiate d g role msg label funds).Serves .instantiate :=
  serves_needs (befitting_codeId g role) fun _ => serves_plain rfl _ _

theorem serves_uploadArtifact (role path : String) :
    (uploadArtifact d role path).Serves .upload := by
  refine serves_needs (befitting_mapError ?_) fun _ => serves_plain rfl _ _
  exact fun _ _ => nofun

theorem serves_instantiateThrough (manager role : String) (funds : List Coin)
    (message : UInt64 → ManagerCall) :
    (instantiateThrough d g manager role funds message).Serves .execute :=
  serves_needs (befitting_codeId g role) fun _ =>
    (serves_execute d g manager _ funds).followed befitting_ok

theorem serves_swapTokens (manager : String) (swap : Option String) (initialBalance : Coin)
    (etf : Bundle) (funds : List Coin) :
    (swapTokens d g manager swap initialBalance etf funds).Serves .execute := by
  refine serves_needs ?_ fun _ => serves_execute d g manager _ funds
  cases swap with
  | none => exact befitting_ok none
  | some role => exact (befitting_address g role).map some

theorem Serves.committing {m : Move TxOutcome} (hm : m.Serves operation) (s : Step) :
    (m.committing s).Serves operation := hm.followed fun _ => befitting_ok ()

theorem Serves.reads {m : Move α} (hm : m.Serves operation) {value : α → Fallible β}
    (hvalue : ∀ a, Befitting operation (value a)) : (m.reads value).Serves operation :=
  hm.followed hvalue

theorem serves_ofStep (s : Step) : (ofStep d g s).Serves s.operation := by
  cases s with
  | upload role artifact =>
      exact (serves_uploadArtifact d role artifact).reads fun _ => befitting_ok ()
  | instantiate role msg label codeId funds =>
      exact (serves_instantiate d g role msg label funds).reads fun _ => befitting_ok ()
  | execute role msg funds => exact (serves_execute d g role msg funds).committing _
  | query role msg expect =>
      exact (serves_query g role msg).reads fun _ => befitting_of_reads rfl _
  | balance address denom => exact (serves_plain rfl none _).reads fun _ => befitting_ok ()
  | send recipient amount => exact (serves_plain rfl none fun _ => []).committing _
  | instantiateSwap manager swap debug funds =>
      exact (serves_instantiateThrough d g manager swap funds _).committing _
  | instantiateToken manager token etfName etfSymbol =>
      exact (serves_instantiateThrough d g manager token [] _).committing _
  | swapTokens manager swap initialBalance etf funds =>
      exact (serves_swapTokens d g manager swap initialBalance etf funds).committing _
  | redeemTokens manager etfName funds => exact (serves_execute d g manager _ funds).committing _

/-- The move of a job serves the operation that the job makes. -/
theorem serves_job (j : Job α) : (j.move d g).Serves j.operation := by
  cases j with
  | upload role wasm => exact serves_plain rfl _ _
  | uploadArtifact role path => exact serves_uploadArtifact d role path
  | instantiate role msg label funds => exact serves_instantiate d g role msg label funds
  | execute role msg funds => exact serves_execute d g role msg funds
  | query role msg => exact serves_query g role msg
  | balance address denom => exact serves_plain rfl none _
  | send recipient amount => exact serves_plain rfl none _
  | instantiateSwap manager swap debug funds =>
      exact serves_instantiateThrough d g manager swap funds _
  | instantiateToken manager token etfName etfSymbol =>
      exact serves_instantiateThrough d g manager token [] _
  | swapTokens manager swap initialBalance etf funds =>
      exact serves_swapTokens d g manager swap initialBalance etf funds
  | redeemTokens manager etfName funds => exact serves_execute d g manager _ funds
  | queryManager manager q decode =>
      exact (serves_query g manager q.encode).reads fun _ => befitting_of_reads rfl _
  | step s => exact serves_ofStep d g s

end Move

/-! ## Operations and steps -/

/-- What becomes of a refusal until its operation ends; `log` is what passed between the client and
the node, and `before` and `after` are the reports that were left before and after. -/
structure Verbatim (operation : Operation) (log : List NodeEvent) (r : Fallible α)
    (before after : List StepReport) : Prop where
  /-- A refusal is the last thing that passes, and the operation fails with it and reports it. -/
  refused : ∀ earlier e later text, log = earlier ++ e :: later → e.refusal? = some text →
    later = [] ∧ r = .error (.rejected operation text)
      ∧ ∃ role ms, after =
        before ++ [⟨operation, role, .failed, ms, some text, some operation.rejection⟩]
  /-- An operation that changes the chain never fails with the rejection of a query. -/
  befits : operation.transacts = true → ∀ text, r ≠ .error (.queryRejected text)

namespace Deployment

theorem ofResult_rejected (operation : Operation) (role : Option String) (ms : UInt64)
    (text : String) :
    StepReport.ofResult (α := α) operation role ms (.error (.rejected operation text)) =
      ⟨operation, role, .failed, ms, some text, some operation.rejection⟩ := by
  rw [StepReport.ofResult, Failure.detail_rejected, Failure.kind_rejected]

variable (d : Deployment σ) (c : Connection) (n : Node σ)

/-- A move that serves an operation carries a refusal on as it is. -/
theorem move_verbatim {operation : Operation} {m : Move α} (hm : m.Serves operation) (now : Nat)
    (p : Progress (Recorded σ)) :
    ∃ r t q log, (m.act (d.through c n)).result now p = ⟨some r, t, q⟩
      ∧ q.world.1 = p.world.1 ++ log ∧ Verbatim operation log r p.steps q.steps := by
  cases m with
  | fails report f =>
      refine ⟨.error f, now, _, [], rfl, (List.append_nil _).symm, ⟨?_, ?_⟩⟩
      · exact fun earlier e later text hlog => absurd hlog (by simp)
      · rintro htransacts text ⟨⟩
        exact hm htransacts text rfl
  | calls k role found notes value =>
      obtain ⟨rfl, hvalue⟩ := hm
      obtain ⟨r, t, w, log, hcall, hlog, hheeded⟩ := d.call_heeds c n k now p
      refine ⟨_, t, _, log, (d.through c n).result_move hcall, hlog, ⟨?_, ?_⟩⟩
      · intro earlier e later text hsplit htext
        obtain ⟨hlater, hr⟩ := hheeded.refused earlier e later text hsplit htext
        obtain rfl := Option.some.inj hr
        exact ⟨hlater, rfl, role, _, congrArg (fun report => p.steps ++ [report])
          (ofResult_rejected k.operation role _ text)⟩
      · intro htransacts text hr
        exact (hheeded.befits r rfl).bind hvalue _ hr htransacts text rfl

/-- A job takes no time before its move, and leaves no reports. -/
theorem result_job (j : Job α) (now : Nat) (p : Progress σ) :
    ∃ g, (j.act d).result now p = ((j.move d g).act d).result now { p with registry := g } :=
  ⟨_, d.result_job_move j now p⟩

/-- Every operation and every step carries a refusal on as it is. -/
theorem job_verbatim (j : Job α) (now : Nat) (p : Progress (Recorded σ)) :
    ∃ r t q log, (j.act (d.through c n)).result now p = ⟨some r, t, q⟩
      ∧ q.world.1 = p.world.1 ++ log ∧ Verbatim j.operation log r p.steps q.steps := by
  obtain ⟨g, hjob⟩ := (d.through c n).result_job j now p
  rw [hjob]
  exact d.move_verbatim c n (Move.serves_job (d.through c n) g j) now { p with registry := g }

/-! ## Scenarios -/

/-- Steps that succeed do not hold the first failure. -/
theorem firstFailure_append {steps : List Step} {t : Nat} {q : Progress σ} :
    ∀ (done : List Step) (now : Nat) (p : Progress σ),
      (d.runSteps done).result now p = ⟨some (.ok ()), t, q⟩ →
        d.firstFailure (done ++ steps) now p = d.firstFailure steps t q
  | [], _, _, h => by
      obtain ⟨-, rfl, rfl⟩ := Timed.Result.mk.inj h
      rfl
  | step :: done, now, p, h => by
      have hvalue := d.value_runSteps (step :: done) now p
      obtain ⟨r, t', q', hstep⟩ := (d.alike_runStep d.client step).ends now p
      rw [h, firstFailure, hstep] at hvalue
      rw [runSteps, Timed.result_bind_of hstep] at h
      rw [List.cons_append, firstFailure, hstep]
      cases r with
      | ok _ => exact firstFailure_append done t' q' h
      | error f => cases hvalue

/-- Steps that end in their time are not cut off. -/
theorem not_expires_of_lt {s : Scenario} {now t : Nat} {p q : Progress σ}
    {r : Option (Fallible Unit)} (h : (d.runSteps s.steps).result now p = ⟨r, t, q⟩)
    (ht : t < now + d.deadline s) : ¬d.Expires s now p := by
  intro hexp
  have hle := (d.expires_bounds s now p).2 hexp
  rw [h] at hle
  exact absurd hle (Nat.not_le.mpr ht)

/-- The report of a scenario that is not cut off has the first failure of its steps. -/
theorem report_of_firstFailure (s : Scenario) {now t : Nat} {p : Progress σ} {f : Failure}
    (hexp : ¬d.Expires s now p) (hfirst : d.firstFailure s.steps now p = some (f, t)) :
    ∃ report stop q, (d.runScenario s).result now p = ⟨some report, stop, q⟩
      ∧ report.error = some f.detail ∧ report.errorKind = some f.kind := by
  have hcut := d.result_within_of_not_expires s hexp
  rw [d.value_runSteps, hfirst] at hcut
  exact ⟨_, _, _, d.runScenario_of_within s hcut, rfl, rfl⟩

/-- The rejections of a chain travel as they are, under the kind of the operation that was
rejected. If the node refuses anything in any attempt at an operation, there is no further
attempt, and the operation fails with the log of the node and leaves a report of that. The
report of a scenario that is not cut off has the same, if the steps before have succeeded.
Whatever the node says, an operation that changes the chain never fails with the rejection of
a query. -/
theorem rejection_verbatim :
    (∀ {α : Type} (j : Job α) (now : Nat) (p : Progress (Recorded σ)),
      ∃ r t q log, (j.act (d.through c n)).result now p = ⟨some r, t, q⟩
        ∧ q.world.1 = p.world.1 ++ log ∧ Verbatim j.operation log r p.steps q.steps)
    ∧ ∀ (s : Scenario) (now : Nat) (p : Progress (Recorded σ)), ¬(d.through c n).Expires s now p →
      ∀ done step rest t q, s.steps = done ++ step :: rest →
        ((d.through c n).runSteps done).result now p = ⟨some (.ok ()), t, q⟩ →
        ∀ before e after text,
          (((d.through c n).runStep step).result t q).state.world.1 =
            q.world.1 ++ (before ++ e :: after) →
          e.refusal? = some text →
          ∃ report stop q', ((d.through c n).runScenario s).result now p = ⟨some report, stop, q'⟩
            ∧ report.error = some text ∧ report.errorKind = some step.operation.rejection := by
  refine ⟨fun j now p => d.job_verbatim c n j now p, ?_⟩
  intro s now p hexp done step rest t q hsteps hdone before e after text hlog htext
  obtain ⟨r, t', q', log, hstep, hlog', hverbatim⟩ := d.job_verbatim c n (.step step) t q
  change ((d.through c n).runStep step).result t q = _ at hstep
  rw [hstep, hlog'] at hlog
  obtain ⟨-, rfl, -⟩ := hverbatim.refused before e after text (List.append_cancel_left hlog) htext
  have hfirst : (d.through c n).firstFailure s.steps now p =
      some (.rejected step.operation text, t') := by
    rw [hsteps, (d.through c n).firstFailure_append done now p hdone, firstFailure, hstep]
    rfl
  obtain ⟨report, stop, q'', hrun, herror, hkind⟩ :=
    (d.through c n).report_of_firstFailure s hexp hfirst
  rw [Failure.detail_rejected] at herror
  rw [Failure.kind_rejected] at hkind
  exact ⟨report, stop, q'', hrun, herror, hkind⟩

/-- The replies of a node that refuses every lookup. -/
def refusing (text : String) : (r : NodeRequest) → Option r.Reply
  | .lookup .. => some ⟨5, text, []⟩
  | .commit .. | .latestBlock | .faucet .. => none

/-- At a node that refuses every lookup, coins are not sent: the refusal of the account is the last
thing that passes. -/
theorem runStep_send_refused {w : Wallet} (hsigner : c.signerFor d.sender = .ok w) (text : String)
    (recipient : String) (amount : List Coin) (now : Nat) (p : Progress (Recorded σ)) :
    ∃ q before e,
      ((d.through c (.prompt (refusing text))).runStep (.send recipient amount)).result now p =
          ⟨some (.error (.rejected .send text)), now, q⟩
        ∧ q.world.1 = p.world.1 ++ (before ++ [e]) ∧ e.refusal? = some text := by
  let request : NodeRequest := .lookup AccountQuery.path (AccountQuery.layout.encode ⟨d.sender⟩)
  have hplay : (c.exchange (.send d.sender recipient amount)).play (refusing text) =
      (.error (.rejected .send text), [.asked request, .told request (some ⟨5, text, []⟩)]) := by
    change ((c.transact .send d.sender _).play _) = _
    rw [Connection.transact, hsigner, Exchange.ok_bind, Connection.account_eq]
    rfl
  obtain ⟨g, hmove⟩ :=
    (d.through c (.prompt (refusing text))).result_job (.step (.send recipient amount)) now p
  have hcall := d.call_prompt c (refusing text) hplay rfl now { p with registry := g }
  exact ⟨_, [.asked request], .told request (some ⟨5, text, []⟩),
    hmove.trans ((d.through c _).result_move hcall), rfl, rfl⟩

/-- A wallet without funds sends coins: the node does not know its account, and what it says is the
error in the report of the step and of the scenario, as the rejection of an execution. -/
theorem rejection_verbatim_of_unknown_account :
    let w : Wallet := ⟨⟨1, by decide, by decide⟩, "osmo", by decide⟩
    let c : Connection := ⟨.builtIn, some w⟩
    let n : Node Unit := .prompt (refusing "key not found: osmo1")
    let s := Scenario.make "pay" [.send "osmo1to" []]
    ∃ sender, c.signerFor sender = .ok w ∧
      let d : Deployment Unit := ⟨c.client n, sender, .standard, ⟨[], []⟩⟩
      ∃ q role ms report stop q',
        ((d.through c n).runStep (.send "osmo1to" [])).result 0 (.start ([], ())) =
            ⟨some (.error (.executeRejected "key not found: osmo1")), 0, q⟩
          ∧ q.steps =
            [⟨.send, role, .failed, ms, some "key not found: osmo1", some .executeRejected⟩]
          ∧ ((d.through c n).runScenario s).result 0 (.start ([], ())) = ⟨some report, stop, q'⟩
          ∧ report.error = some "key not found: osmo1"
          ∧ report.errorKind = some .executeRejected := by
  intro w c n s
  obtain ⟨sender, hsigner⟩ := c.signerFor_own rfl (w := w) (by decide)
  refine ⟨sender, hsigner, ?_⟩
  intro d
  obtain ⟨q, before, e, hstep, hworld, htext⟩ :=
    d.runStep_send_refused c hsigner "key not found: osmo1" "osmo1to" [] 0 (.start ([], ()))
  have hsteps : ((d.through c n).runSteps s.steps).result 0 (.start ([], ())) =
      ⟨some (.error (.executeRejected "key not found: osmo1")), 0, q⟩ :=
    Timed.result_bind_of hstep
  have hexp : ¬(d.through c n).Expires s 0 (.start ([], ())) :=
    (d.through c n).not_expires_of_lt hsteps
      (show 0 < 0 + RunPolicy.standard.scenarioTimeoutMs by decide)
  obtain ⟨hjob, hscenario⟩ := d.rejection_verbatim c n
  obtain ⟨r, t, q', log, hstep', hlog, hverbatim⟩ :=
    hjob (.step (.send "osmo1to" [])) 0 (.start ([], ()))
  obtain ⟨-, -, rfl⟩ := Timed.Result.mk.inj (hstep.symm.trans hstep')
  obtain ⟨-, -, role, ms, hreports⟩ :=
    hverbatim.refused before e [] _ (hlog.symm.trans hworld) htext
  have hsent : (((d.through c n).runStep (.send "osmo1to" [])).result 0
      (.start ([], ()))).state.world.1 = [] ++ (before ++ [e]) := by
    rw [hstep]
    exact hworld
  obtain ⟨report, stop, q', hreport⟩ := hscenario s 0 (.start ([], ())) hexp [] (.send "osmo1to" [])
    [] 0 (.start ([], ())) rfl rfl before e [] _ hsent htext
  exact ⟨q, role, ms, report, stop, q', hstep, hreports, hreport⟩

end Deployment

end Rollout
