import Rollout.Proofs.Chain.Attempts
import Rollout.Proofs.Chain.Submission
import Rollout.Proofs.Cli.Refusals
import Rollout.Proofs.Deployment.Calling

/-!
# What a deployment leaves on record

The command that deploys a contract reads the artifact before it asks anything, and instantiates
nothing unless the upload has succeeded: what it leaves on the record of a node are the attempts at
an upload and, after a success, those at an instantiation of the code that was stored
(`Deployment.Leaves`). So whoever reads the transactions on the record finds no instantiation before
the upload has succeeded. With the refusals of wrong input this is put together in `refusal_law`.
-/

namespace Rollout

/-- Whatever is on record of several attempts is on record of one of them. -/
theorem Exchange.Attempts.transcript_of_mem {e : Exchange α} {late : Failure} {left : Nat}
    {log : List NodeEvent} {r : Fallible α} (h : e.Attempts late left log r) {event : NodeEvent}
    (hmem : event ∈ log) : ∃ part v, e.Transcript part v ∧ event ∈ part := by
  induction h with
  | last h => exact ⟨_, _, h, hmem⟩
  | again h _ _ _ ih => exact (List.mem_append.mp hmem).elim (fun hfirst => ⟨_, _, h, hfirst⟩) ih

namespace Deployment

/-! ## An upload and an instantiation -/

/-- Uploads code and, if that succeeds, instantiates it. -/
def deploy (d : Deployment σ) (artifact role : String) (msg : Json) (label : Option String)
    (funds : List Coin) : Act σ (Fallible UInt64 × Fallible String) := do
  let code ← d.uploadArtifact role artifact
  let address ← andThen code fun _ => d.instantiate role msg label funds
  return (code, address)

/-- What is on record of a call with all its attempts, and its result. -/
def Calls (d : Deployment σ) (c : Connection) (k : Call) (log : List NodeEvent)
    (r : Fallible k.Answer) : Prop :=
  (c.exchange k).Attempts (d.late k) d.policy.retry.maxRetries.toNat log r

/-- What is on record of a deployment, with the results of its two calls: an instantiation is only
made of code that was stored. -/
inductive Leaves (d : Deployment σ) (c : Connection) (wasm : Bytes) (role : String) (msg : Json)
    (label : Option String) (funds : List Coin) :
    List NodeEvent → Fallible UInt64 → Fallible String → Prop
  | unstored {log : List NodeEvent} {f : Failure}
      (h : d.Calls c (.upload d.sender wasm) log (.error f)) :
      Leaves d c wasm role msg label funds log (.error f) (.error f)
  | stored {log rest : List NodeEvent} {code : UInt64} {r : Fallible String}
      (h : d.Calls c (.upload d.sender wasm) log (.ok code))
      (hrest : d.Calls c (.instantiate d.sender code msg (label.getD role) funds) rest r) :
      Leaves d c wasm role msg label funds (log ++ rest) (.ok code) r

section Deploying

variable (d : Deployment σ) (c : Connection) (n : Node σ) {artifact role : String} {msg : Json}
  {label : Option String} {funds : List Coin}

/-- An artifact that cannot be read fails the deployment before anything is asked. -/
theorem result_deploy_unread (role : String) (msg : Json) (label : Option String)
    (funds : List Coin) {fault : FileFault}
    (h : d.files.read (d.policy.artifactPath d.files artifact) = .error fault) (now : Nat)
    (p : Progress σ) :
    ∃ f q, (d.deploy artifact role msg label funds).result now p =
        ⟨some (.error f, .error f), now, q⟩
      ∧ q.world = p.world := by
  have hmove := d.result_job_move (.uploadArtifact role artifact) now p
  rw [Job.move, Move.uploadArtifact, h] at hmove
  exact ⟨_, _, Timed.result_bind_of hmove, rfl⟩

theorem codeId_recorded (g : Registry) (role : String) (code : UInt64) :
    (g.learn [.code role code]).codeId role = .ok code := by
  have hfound : ((g.learn [.code role code]).get? role).getD .none = ⟨some code, none⟩ :=
    (Registry.get?_record g (.code role code) role).trans (if_pos rfl)
  rw [Registry.codeId_eq, hfound]

/-- An upload ends with its call, and then its code is that of the role, whatever was known of the
role before. -/
theorem result_uploadArtifact (role : String) {wasm : Bytes} {now t : Nat} {p q : Progress σ}
    {r : Fallible UInt64}
    (hread : d.files.read (d.policy.artifactPath d.files artifact) = .ok wasm)
    (hcall : (d.call (.upload d.sender wasm)).result now p = ⟨some r, t, q⟩) :
    ∃ q', (d.uploadArtifact role artifact).result now p = ⟨some r, t, q'⟩ ∧ q'.world = q.world
      ∧ ∀ code, r = .ok code → q'.registry.codeId role = .ok code := by
  have hmove := d.result_job_move (.uploadArtifact role artifact) now p
  rw [Job.move, Move.uploadArtifact, hread] at hmove
  have hresult := hmove.trans (d.result_move hcall)
  have hvalue : r >>= Except.ok = r := by cases r <;> rfl
  rw [hvalue] at hresult
  refine ⟨_, hresult, rfl, ?_⟩
  rintro code rfl
  exact codeId_recorded q.registry role code

/-- An instantiation of a role whose code is known ends with its call. -/
theorem result_instantiate {codeId : UInt64} {now t : Nat} {p q : Progress σ} {r : Fallible String}
    (hcode : p.registry.codeId role = .ok codeId)
    (hcall : (d.call (.instantiate d.sender codeId msg (label.getD role) funds)).result now p =
      ⟨some r, t, q⟩) :
    ∃ q', (d.instantiate role msg label funds).result now p = ⟨some r, t, q'⟩
      ∧ q'.world = q.world := by
  have hmove := (d.makes_instantiate role msg label funds).result now p
  rw [Move.instantiate, hcode] at hmove
  have hresult := hmove.trans (d.result_move hcall)
  have hvalue : r >>= Except.ok = r := by cases r <;> rfl
  rw [hvalue] at hresult
  exact ⟨_, hresult, rfl⟩

/-- A deployment whose artifact is read leaves its calls on record. -/
theorem result_deploy (role : String) (msg : Json) (label : Option String) (funds : List Coin)
    {wasm : Bytes}
    (hread : d.files.read (d.policy.artifactPath d.files artifact) = .ok wasm) (now : Nat)
    (p : Progress (Recorded σ)) :
    ∃ code address t q log,
      ((d.through c n).deploy artifact role msg label funds).result now p =
          ⟨some (code, address), t, q⟩
        ∧ q.world.1 = p.world.1 ++ log
        ∧ (d.through c n).Leaves c wasm role msg label funds log code address := by
  obtain ⟨r, t, q, log, hcall, hlog, hattempts⟩ :=
    d.call_attempts c n (.upload d.sender wasm) now p
  obtain ⟨stored, hupload, hworld, hcode⟩ :=
    (d.through c n).result_uploadArtifact role hread hcall
  rw [← hworld] at hlog
  cases r with
  | error f => exact ⟨_, _, _, _, log, Timed.result_bind_of hupload, hlog, .unstored hattempts⟩
  | ok code =>
      obtain ⟨r, t', q', rest, hcall', hrest, hattempts'⟩ :=
        d.call_attempts c n (.instantiate d.sender code msg (label.getD role) funds) t stored
      obtain ⟨ended, hinstantiate, hworld'⟩ :=
        (d.through c n).result_instantiate (hcode code rfl) hcall'
      refine ⟨.ok code, r, t', ended, log ++ rest, ?_, ?_, .stored hattempts hattempts'⟩
      · exact (Timed.result_bind_of hupload).trans (Timed.result_bind_of hinstantiate)
      · rw [hworld', hrest, hlog, List.append_assoc]

end Deploying

/-! ## Transactions on the record -/

/-- What is submitted in the attempts at a call says what the call is about. -/
theorem Calls.says {d : Deployment σ} {c : Connection} {k : Call} {log : List NodeEvent}
    {r : Fallible k.Answer} (h : d.Calls c k log r) {bytes : Bytes}
    (hsent : .asked (.commit bytes) ∈ log) :
    ∃ sender message part w account price limit tx,
      Connection.transaction? k = some (sender, message)
        ∧ c.Says k.operation sender message part bytes w account price limit tx := by
  obtain ⟨part, v, htranscript, hpart⟩ := Exchange.Attempts.transcript_of_mem h hsent
  obtain ⟨sender, message, w, account, price, limit, tx, hk, hsays⟩ :=
    Connection.conveys_exchange htranscript bytes hpart
  exact ⟨sender, message, part, w, account, price, limit, tx, hk, hsays⟩

/-- Bytes that are read as a transaction in which a contract is instantiated. -/
def Instantiates (bytes : Bytes) : Prop :=
  ∃ tx body authInfo message, ReadsAsTx bytes tx body authInfo ∧ body.Holds (.instantiate message)

/-- Nothing is instantiated in the attempts at an upload. -/
theorem not_instantiates_of_upload {d : Deployment σ} {c : Connection} {wasm : Bytes}
    {log : List NodeEvent} {r : Fallible UInt64} (h : d.Calls c (.upload d.sender wasm) log r)
    {bytes : Bytes} (hsent : .asked (.commit bytes) ∈ log) (hlength : bytes.length < UInt64.size) :
    ¬Instantiates bytes := by
  rintro ⟨tx, body, authInfo, message, hreads, hholds⟩
  obtain ⟨sender, message', part, w, account, price, limit, tx', hk, hsays⟩ := h.says hsent
  obtain rfl : TxMessage.storeCode ⟨d.sender, wasm⟩ = message' :=
    (Prod.mk.inj (Option.some.inj hk)).2
  obtain ⟨body', authInfo', hreads', hholds', -⟩ := hsays.reads hlength
  cases hreads.whole.symm.trans hreads'.whole
  cases hreads.body.symm.trans hreads'.body
  obtain ⟨typed, hone, htype, -⟩ := hholds.message
  obtain ⟨typed', hone', htype', -⟩ := hholds'.message
  obtain rfl : typed = typed' := List.head_eq_of_cons_eq (hone.symm.trans hone')
  exact absurd (htype.symm.trans htype') (by simp [TxMessage.typeUrl])

/-- A contract is instantiated on the record of a deployment only after the upload has succeeded. -/
theorem Leaves.earned {d : Deployment σ} {c : Connection} {wasm : Bytes} {role : String}
    {msg : Json} {label : Option String} {funds : List Coin} {log : List NodeEvent}
    {code : Fallible UInt64} {address : Fallible String}
    (h : d.Leaves c wasm role msg label funds log code address) {before after : List NodeEvent}
    {bytes : Bytes} (hlog : log = before ++ .asked (.commit bytes) :: after)
    (hlength : bytes.length < UInt64.size) (hinstantiates : Instantiates bytes) :
    ∃ uploaded between codeId, before = uploaded ++ between
      ∧ d.Calls c (.upload d.sender wasm) uploaded (.ok codeId) := by
  cases h with
  | unstored h =>
      have hsent : NodeEvent.asked (.commit bytes) ∈ log := by simp [hlog]
      exact absurd hinstantiates (not_instantiates_of_upload h hsent hlength)
  | stored h _ =>
      rcases List.append_eq_append_iff.mp hlog with ⟨between, hbefore, -⟩ | ⟨rest, huploaded, hrest⟩
      · exact ⟨_, between, _, hbefore, h⟩
      · cases rest with
        | nil => exact ⟨_, [], _, by simpa using huploaded.symm, h⟩
        | cons event rest =>
            obtain ⟨rfl, -⟩ := List.cons.inj hrest
            have hsent :
                NodeEvent.asked (.commit bytes) ∈ before ++ .asked (.commit bytes) :: rest := by
              simp
            rw [← huploaded] at hsent
            exact absurd hinstantiates (not_instantiates_of_upload h hsent hlength)

end Deployment

/-! ## The command -/

namespace Cli

/-- The scene with a node that keeps a record. -/
def Scene.recorded (scene : Scene σ) : Scene (Recorded σ) :=
  ⟨scene.node.recorded, scene.chance, scene.stamp⟩

theorem signingDeployment_ok {node : Node σ} {files : Files} {s : Settings} {d : Deployment σ}
    (h : signingDeployment node files s = .ok d) :
    ∃ w sender, loadWallet s = .ok w ∧ w.address = .ok sender
      ∧ d = ⟨(⟨s.network, some w⟩ : Connection).client node, sender, s.driver, files⟩ := by
  obtain ⟨w, hw, h⟩ := bind_eq_ok_iff.mp h
  obtain ⟨sender, hsender, h⟩ := bind_eq_ok_iff.mp h
  obtain ⟨c, hc, h⟩ := bind_eq_ok_iff.mp h
  rw [Connection.make] at hc
  split at hc
  · obtain rfl := Except.ok.inj hc
    exact ⟨w, sender, hw, hsender, (Except.ok.inj h).symm⟩
  · cases hc

/-- Tells of the code and of the contract. -/
def tellDeployed (code : Fallible UInt64) (address : Fallible String) : Session σ Unit := do
  Session.print ("Code ID: " ++ toString (← code).toNat)
  Session.print ("Contract address: " ++ (← address))

theorem tellDeployed_run (code : Fallible UInt64) (address : Fallible String) (now : Nat)
    (c : Console σ) :
    ∃ lines, (tellDeployed code address).run now c =
      .ends (code >>= fun _ => address >>= fun _ => .ok ()) { c with lines } := by
  cases code with
  | error f => exact ⟨_, rfl⟩
  | ok code => cases address <;> exact ⟨_, rfl⟩

section Deploy

variable (scene : Scene σ) (s : Settings) (artifact msg : String) (label : Option String)
  (role : String) (funds : Option String) (now : Nat) (c : Console σ)

/-- The command is over at once, or its message and its funds have been read and it signs. -/
theorem execute_deploy :
    (∃ f, (execute scene s (.deploy artifact msg label role funds)).run now c = .ends (.error f) c)
      ∨ ∃ v cs d, Json.parse? msg = some v ∧ Coin.parseList (funds.getD "") = .ok cs
        ∧ signingDeployment scene.node c.files s = .ok d
        ∧ (execute scene s (.deploy artifact msg label role funds)).run now c =
          (Session.deploying (d.deploy artifact role v label cs) >>= fun r =>
            tellDeployed r.1 r.2).run now c := by
  by_cases hsound : (Command.deploy artifact msg label role funds).Sound c.files
  · obtain ⟨⟨v, hv⟩, cs, hcs⟩ := hsound
    have hrun : (execute scene s (.deploy artifact msg label role funds)).run now c =
        (Session.check (readMessage msg) >>= fun v =>
          Session.check (readCoins (funds.getD "")) >>= fun cs =>
            (signingDeployment scene.node c.files s : Session σ (Deployment σ)) >>= fun d =>
              Session.deploying (d.deploy artifact role v label cs) >>= fun r =>
                tellDeployed r.1 r.2).run now c := rfl
    rw [Session.run_check_bind, readMessage, hv] at hrun
    simp only [Session.run_check_bind, readCoins, hcs] at hrun
    cases hd : signingDeployment scene.node c.files s with
    | error f =>
        rw [hd] at hrun
        exact .inl ⟨f, hrun⟩
    | ok d =>
        rw [hd] at hrun
        exact .inr ⟨v, cs, d, hv, hcs, rfl, hrun⟩
  · obtain ⟨fault, hrefused⟩ := (Command.refused_iff _).mpr hsound
    exact .inl ⟨_, hrefused.run scene s now⟩

variable {now c}

theorem result_deploying {a : Act σ (Fallible UInt64 × Fallible String)} {code : Fallible UInt64}
    {address : Fallible String} {t : Nat} {p : Progress σ}
    (h : a.result now (.start c.world) = ⟨some (code, address), t, p⟩) :
    (Session.deploying a >>= fun r => tellDeployed r.1 r.2).run.result now c =
      (tellDeployed code address).run.result t { c with world := p.world } := by
  have hpart : (a.zoom (fun (c : Console σ) => .start c.world)
      fun p c => { c with world := p.world }).result now c =
        ⟨some (code, address), t, { c with world := p.world }⟩ := by
    refine (Course.finish_mapState _ _ now).trans ?_
    rw [show (a now (.start c.world)).finish now = _ from h]
  have hdeploying : (Session.deploying a).run.result now c =
      ⟨some (.ok (code, address)), t, { c with world := p.world }⟩ := Timed.result_bind_of hpart
  exact Timed.result_bind_of hdeploying

end Deploy

/-- What the command has left on record, and how it ended: nothing was asked, or a signing
deployment read the artifact and made its calls. -/
inductive Deployed (scene : Scene σ) (s : Settings) (files : Files) (artifact msg : String)
    (label : Option String) (role : String) (funds : Option String) :
    List NodeEvent → Fallible Unit → Prop
  | unasked {f : Failure} : Deployed scene s files artifact msg label role funds [] (.error f)
  | asked {d : Deployment (Recorded σ)} {w : Wallet} {wasm : Bytes} {v : Json} {cs : List Coin}
      {log : List NodeEvent} {code : Fallible UInt64} {address : Fallible String}
      (hd : signingDeployment scene.node.recorded files s = .ok d) (hw : loadWallet s = .ok w)
      (hread : files.read (s.driver.artifactPath files artifact) = .ok wasm)
      (hmsg : Json.parse? msg = some v) (hfunds : Coin.parseList (funds.getD "") = .ok cs)
      (h : d.Leaves ⟨s.network, some w⟩ wasm role v label cs log code address) :
      Deployed scene s files artifact msg label role funds log
        (code >>= fun _ => address >>= fun _ => .ok ())

/-- A record of an upload of the artifact that has succeeded. -/
def Uploaded (scene : Scene σ) (s : Settings) (files : Files) (artifact : String)
    (log : List NodeEvent) : Prop :=
  ∃ d w wasm codeId, signingDeployment scene.node.recorded files s = .ok d ∧ loadWallet s = .ok w
    ∧ files.read (s.driver.artifactPath files artifact) = .ok wasm
    ∧ d.Calls ⟨s.network, some w⟩ (.upload d.sender wasm) log (.ok codeId)

section Deployed

variable {scene : Scene σ} {s : Settings} {artifact msg role : String} {label funds : Option String}

theorem Deployed.earned {files : Files} {log : List NodeEvent} {v : Fallible Unit}
    (h : Deployed scene s files artifact msg label role funds log v) {before after : List NodeEvent}
    {bytes : Bytes} (hlog : log = before ++ .asked (.commit bytes) :: after)
    (hlength : bytes.length < UInt64.size) (hinstantiates : Deployment.Instantiates bytes) :
    ∃ uploaded between,
      before = uploaded ++ between ∧ Uploaded scene s files artifact uploaded := by
  cases h with
  | unasked => exact absurd hlog (by simp)
  | asked hd hw hread _ _ h =>
      obtain ⟨uploaded, between, codeId, hbefore, hcalls⟩ := h.earned hlog hlength hinstantiates
      exact ⟨uploaded, between, hbefore, _, _, _, codeId, hd, hw, hread, hcalls⟩

/-- An artifact that cannot be read fails the command, and nothing else happens. -/
theorem deploy_unread (scene : Scene σ) (s : Settings) (msg : String) (label : Option String)
    (role : String) (funds : Option String) (now : Nat) {c : Console σ} {fault : FileFault}
    (h : c.files.read (s.driver.artifactPath c.files artifact) = .error fault) :
    ∃ f, (execute scene s (.deploy artifact msg label role funds)).run.result now c =
      ⟨some (.error f), now, c⟩ := by
  rcases execute_deploy scene s artifact msg label role funds now c with
    ⟨f, hrun⟩ | ⟨v, cs, d, -, -, hd, hrun⟩
  · exact ⟨f, by rw [Timed.result, hrun]; rfl⟩
  · obtain ⟨w, sender, -, -, hd⟩ := signingDeployment_ok hd
    have hread : d.files.read (d.policy.artifactPath d.files artifact) = .error fault := by
      rw [hd]
      exact h
    obtain ⟨f, q, hdeploy, hworld⟩ :=
      d.result_deploy_unread role v label cs hread now (.start c.world)
    refine ⟨f, ?_⟩
    rw [Timed.result, hrun, ← Timed.result, result_deploying hdeploy, hworld]
    rfl

/-- What the command leaves on record. -/
theorem deploy_deployed (scene : Scene σ) (s : Settings) (artifact msg : String)
    (label : Option String) (role : String) (funds : Option String) (now : Nat)
    (c : Console (Recorded σ)) :
    ∃ v t c' log,
      (execute scene.recorded s (.deploy artifact msg label role funds)).run.result now c =
        ⟨some v, t, c'⟩
      ∧ c'.world.1 = c.world.1 ++ log
      ∧ Deployed scene s c.files artifact msg label role funds log v := by
  cases hread : c.files.read (s.driver.artifactPath c.files artifact) with
  | error fault =>
      obtain ⟨f, hresult⟩ := deploy_unread scene.recorded s msg label role funds now hread
      exact ⟨_, _, _, [], hresult, (List.append_nil _).symm, .unasked⟩
  | ok wasm =>
      rcases execute_deploy scene.recorded s artifact msg label role funds now c with
        ⟨f, hrun⟩ | ⟨v, cs, d, hmsg, hfunds, hd, hrun⟩
      · exact ⟨_, now, c, [], by rw [Timed.result, hrun]; rfl, (List.append_nil _).symm, .unasked⟩
      · obtain ⟨w, sender, hw, -, hd'⟩ := signingDeployment_ok hd
        let plain : Deployment σ :=
          ⟨(⟨s.network, some w⟩ : Connection).client scene.node, sender, s.driver, c.files⟩
        replace hd' : d = plain.through ⟨s.network, some w⟩ scene.node := hd'
        obtain ⟨code, address, t, q, log, hdeploy, hlog, hleaves⟩ :=
          plain.result_deploy ⟨s.network, some w⟩ scene.node role v label cs hread now
            (.start c.world)
        rw [← hd'] at hdeploy hleaves
        obtain ⟨lines, htold⟩ := tellDeployed_run code address t { c with world := q.world }
        refine ⟨_, t, ⟨q.world, c.files, lines⟩, log, ?_, hlog,
          .asked hd hw hread hmsg hfunds hleaves⟩
        rw [Timed.result, hrun, ← Timed.result, result_deploying hdeploy, Timed.result, htold]
        rfl

end Deployed

/-! ## The law of refusals -/

/-- A command is refused exactly if its input is not in order. Then it has ended at once with that
fault of the configuration, at every node and with all settings, and so has the program that was to
carry it out: nothing is asked, printed or written. A deployment whose artifact cannot be read fails
and asks nothing either. What any deployment leaves on record are an upload and, if that has
succeeded, an instantiation of its code; so before every transaction on it that is read as an
instantiation there is an upload that has succeeded. -/
theorem refusal_law :
    (∀ files (command : Command),
        (∃ fault, command.Refused files fault) ↔ ¬command.Sound files)
      ∧ (∀ {σ : Type} (scene : Scene σ) s (c : Console σ) now command fault,
        command.Refused c.files fault →
          (execute scene s command).run now c = .ends (.error (.configuration fault)) c)
      ∧ (∀ {σ : Type} (scene : Scene σ) around world args i fault, Invocation.parse args = .ok i →
        i.command.Refused around.files fault →
          ∃ f, run scene around world args = (.failure f, ⟨world, around.files, []⟩)
            ∧ f.kind = .configError)
      ∧ (∀ {σ : Type} (scene : Scene σ) s artifact msg label role funds (c : Console σ) now fault,
        c.files.read (s.driver.artifactPath c.files artifact) = .error fault →
          ∃ f, (execute scene s (.deploy artifact msg label role funds)).run.result now c =
            ⟨some (.error f), now, c⟩)
      ∧ ∀ {σ : Type} (scene : Scene σ) s artifact msg label role funds (c : Console (Recorded σ))
          now,
        ∃ v t c' log,
          (execute scene.recorded s (.deploy artifact msg label role funds)).run.result now c =
              ⟨some v, t, c'⟩
            ∧ c'.world.1 = c.world.1 ++ log
            ∧ Deployed scene s c.files artifact msg label role funds log v
            ∧ ∀ before bytes after, log = before ++ .asked (.commit bytes) :: after →
              bytes.length < UInt64.size → Deployment.Instantiates bytes →
                ∃ uploaded between, before = uploaded ++ between
                  ∧ Uploaded scene s c.files artifact uploaded := by
  refine ⟨fun _ command => command.refused_iff, fun scene s c now _ _ h => h.run scene s now,
    fun scene around world _ _ _ hargs h => run_refused scene around world hargs h,
    fun scene s _ msg label role funds _ now _ h =>
      deploy_unread scene s msg label role funds now h,
    fun scene s artifact msg label role funds c now => ?_⟩
  obtain ⟨v, t, c', log, hresult, hlog, h⟩ :=
    deploy_deployed scene s artifact msg label role funds now c
  exact ⟨v, t, c', log, hresult, hlog, h, fun _ _ _ => h.earned⟩

/-- In an empty directory: there is nothing to send in a list of blank items, and no artifact to
deploy, so that nothing is on record. -/
theorem refusal_law_of_empty_directory :
    let scene : Scene Unit := ⟨Node.unreachable, [], fun _ => ""⟩
    let s : Settings := ⟨.builtIn, .standard, none, 0⟩
    let c : Console (Recorded Unit) := ⟨([], ()), .empty "/", []⟩
    let around : Surroundings := ⟨[], .empty "/", "/"⟩
    (execute scene.recorded s (.send "osmo1to" " ,")).run 0 c =
        .ends (.error (.configuration .nothingToSend)) c
      ∧ ¬(Command.send "osmo1to" " ,").Sound c.files
      ∧ (∃ f, run scene.recorded around ([], ()) ["send", "--to", "osmo1to", "--amount", " ,"] =
        (.failure f, c) ∧ f.kind = .configError)
      ∧ ∃ f,
        (execute scene.recorded s (.deploy "token.wasm" "{}" none "token" none)).run.result 0 c =
          ⟨some (.error f), 0, c⟩ := by
  intro scene s c around
  obtain ⟨hiff, hexecute, hrun, hunread, -⟩ := refusal_law
  have hrefused : (Command.send "osmo1to" " ,").Refused c.files .nothingToSend :=
    .sendNothing (by decide)
  have hargs : Invocation.parse ["send", "--to", "osmo1to", "--amount", " ,"] =
      .ok ⟨none, none, false, .send "osmo1to" " ,"⟩ := by rfl
  have hread : c.files.read (s.driver.artifactPath c.files "token.wasm") = .error .notFound := by
    decide
  exact ⟨hexecute scene.recorded s c 0 _ _ hrefused, (hiff _ _).mp ⟨_, hrefused⟩,
    hrun scene.recorded around ([], ()) _ _ _ hargs hrefused,
    hunread scene.recorded s _ _ _ _ _ c 0 _ hread⟩

end Cli

end Rollout
