import Rollout.Proofs.Timed.Conduct
import Rollout.Run

/-!
# How acts are built

Every act of a deployment is built from a few kinds of pieces: it looks at the clock or the
registry, changes the registry, leaves a note or a report, waits, or makes an attempt at a
call. `Alike` follows the building of an act, and it does so for two clients at once: the acts
of two deployments that differ in the client alone are built alike (`alike_runSteps`). What is
to be known of all acts is then shown once for each kind of piece, by induction on `Alike`:
that an act ends (`Alike.ends`), that it keeps a relation between moments which its pieces
keep (`Alike.keeps`), and that it does not see what the client does not show
(`Alike.mapState`).
-/

namespace Rollout

namespace Deployment

/-- The deployment with another client. -/
def withClient (d : Deployment σ) (k : Client τ) : Deployment τ := ⟨k, d.sender, d.policy, d.files⟩

@[simp] theorem withClient_policy (d : Deployment σ) (k : Client τ) :
    (d.withClient k).policy = d.policy := rfl

/-- Leaves a line on a committed transaction. -/
def leaveNote (line : String) : Act σ Unit :=
  Timed.modify fun p => { p with notes := p.notes ++ [line] }

/-- Leaves a report. -/
def leaveReport (report : StepReport) : Act σ Unit :=
  Timed.modify fun p => { p with steps := p.steps ++ [report] }

/-- Acts of a deployment that are built in the same way for its own client and for another one. -/
inductive Alike (d : Deployment σ) (k : Client τ) : {α : Type} → Act σ α → Act τ α → Prop
  | pure (a : α) : Alike d k (pure a) (pure a)
  | bind {act : Act σ α} {act' : Act τ α} {next : α → Act σ β} {next' : α → Act τ β} :
      Alike d k act act' → (∀ a, Alike d k (next a) (next' a)) →
        Alike d k (act >>= next) (act' >>= next')
  | now : Alike d k Timed.now Timed.now
  | wait (ms : Nat) : Alike d k (Timed.wait ms) (Timed.wait ms)
  | pause : Alike d k Timed.pause Timed.pause
  | registry : Alike d k registry registry
  | changeRegistry (f : Registry → Registry) : Alike d k (changeRegistry f) (changeRegistry f)
  | note (line : String) : Alike d k (leaveNote line) (leaveNote line)
  | report (r : StepReport) : Alike d k (leaveReport r) (leaveReport r)
  | attempt (c : Call) : Alike d k (d.attempt c) ((d.withClient k).attempt c)

/-! ## Operations -/

section Operations

variable (d : Deployment σ) (k : Client τ)

theorem alike_perform (c : Call) :
    ∀ left failed, Alike d k (d.perform c failed left) ((d.withClient k).perform c failed left)
  | 0, _ => .attempt c
  | left + 1, failed => by
      refine .bind (.attempt c) fun r => ?_
      cases r with
      | ok a => exact .pure _
      | error f =>
          dsimp only
          split
          · exact .bind (.wait _) fun _ => alike_perform c left (failed + 1)
          · exact .pure _

theorem alike_call (c : Call) : Alike d k (d.call c) ((d.withClient k).call c) :=
  d.alike_perform k c _ 0

variable {d k}

theorem Alike.reported {act : Act σ (Fallible α)} {act' : Act τ (Fallible α)}
    (operation : Operation) (role : Option String) (h : Alike d k act act') :
    Alike d k (reported operation role act) (reported operation role act') :=
  .bind .now fun _ => .bind h fun _ => .bind .now fun _ => .bind (.report _) fun _ => .pure _

theorem Alike.andThen {next : α → Act σ (Fallible β)} {next' : α → Act τ (Fallible β)}
    (r : Fallible α) (h : ∀ a, Alike d k (next a) (next' a)) :
    Alike d k (andThen r next) (andThen r next') := by
  cases r with
  | ok a => exact h a
  | error f => exact .pure _

variable (d k)

theorem alike_upload (role : String) (wasm : Bytes) :
    Alike d k (d.upload role wasm) ((d.withClient k).upload role wasm) := by
  refine .reported _ _ (.bind (d.alike_call k _) fun r => ?_)
  cases r with
  | ok codeId => exact .bind (.changeRegistry _) fun _ => .pure _
  | error f => exact .pure _

theorem alike_uploadArtifact (role path : String) :
    Alike d k (d.uploadArtifact role path) ((d.withClient k).uploadArtifact role path) := by
  refine .bind .pause fun _ => ?_
  simp only [withClient]
  cases d.files.read (d.policy.artifactPath d.files path) with
  | ok wasm => exact d.alike_upload k role wasm
  | error fault => exact .reported _ _ (.pure _)

theorem alike_instantiate (role : String) (msg : Json) (label : Option String)
    (funds : List Coin) :
    Alike d k (d.instantiate role msg label funds)
      ((d.withClient k).instantiate role msg label funds) := by
  refine .reported _ _ (.bind .registry fun _ => .andThen _ fun codeId =>
    .bind (d.alike_call k _) fun r => ?_)
  cases r with
  | ok address => exact .bind (.changeRegistry _) fun _ => .pure _
  | error f => exact .pure _

theorem alike_execute (role : String) (msg : Json) (funds : List Coin) :
    Alike d k (d.execute role msg funds) ((d.withClient k).execute role msg funds) :=
  .reported _ _ (.bind .registry fun _ => .andThen _ fun _ => d.alike_call k _)

theorem alike_query (role : String) (msg : Json) :
    Alike d k (d.query role msg) ((d.withClient k).query role msg) :=
  .reported _ _ (.bind .registry fun _ => .andThen _ fun _ => d.alike_call k _)

theorem alike_balance (address : Option String) (denom : String) :
    Alike d k (d.balance address denom) ((d.withClient k).balance address denom) :=
  .reported _ _ (d.alike_call k _)

theorem alike_send (recipient : String) (amount : List Coin) :
    Alike d k (d.send recipient amount) ((d.withClient k).send recipient amount) :=
  .reported _ _ (d.alike_call k _)

theorem alike_instantiateThrough (manager role : String) (funds : List Coin)
    (message : UInt64 → ManagerCall) :
    Alike d k (d.instantiateThrough manager role funds message)
      ((d.withClient k).instantiateThrough manager role funds message) := by
  refine .bind .registry fun _ => .andThen _ fun _ => .bind (d.alike_execute k _ _ _) fun r => ?_
  cases r with
  | ok o =>
      refine .bind ?_ fun _ => .pure _
      rw [recordInstantiated, recordInstantiated]
      cases o.findAttribute "instantiate" "_contract_address" with
      | some address => exact .changeRegistry _
      | none => exact .pure _
  | error f => exact .pure _

theorem alike_swapTokens (manager : String) (swap : Option String) (initialBalance : Coin)
    (etf : Bundle) (funds : List Coin) :
    Alike d k (d.swapTokens manager swap initialBalance etf funds)
      ((d.withClient k).swapTokens manager swap initialBalance etf funds) :=
  .bind .registry fun _ => .andThen _ fun _ => d.alike_execute k _ _ _

/-! ## Steps -/

variable {d k}

theorem Alike.committing {act : Act σ (Fallible TxOutcome)} {act' : Act τ (Fallible TxOutcome)}
    (step : Step) (h : Alike d k act act') :
    Alike d k (committing step act) (committing step act') :=
  .bind h fun _ => .andThen _ fun _ => .bind (.note _) fun _ => .pure _

theorem Alike.ignoring {act : Act σ (Fallible α)} {act' : Act τ (Fallible α)}
    (h : Alike d k act act') : Alike d k (ignoring act) (ignoring act') :=
  .bind h fun _ => .pure _

variable (d k)

theorem alike_runStep (step : Step) :
    Alike d k (d.runStep step) ((d.withClient k).runStep step) := by
  cases step with
  | upload role artifact => exact (d.alike_uploadArtifact k _ _).ignoring
  | instantiate role msg label codeId funds =>
      cases codeId with
      | none => exact (d.alike_instantiate k _ _ _ _).ignoring
      | some codeId =>
          exact .bind (.changeRegistry _) fun _ => (d.alike_instantiate k _ _ _ _).ignoring
  | execute role msg funds => exact (d.alike_execute k _ _ _).committing _
  | query role msg expect =>
      exact .bind (d.alike_query k _ _) fun _ => .andThen _ fun _ => .pure _
  | balance address denom => exact (d.alike_balance k _ _).ignoring
  | send recipient amount => exact (d.alike_send k _ _).committing _
  | instantiateSwap manager swap debug funds =>
      exact (d.alike_instantiateThrough k _ _ _ _).committing _
  | instantiateToken manager token etfName etfSymbol =>
      exact (d.alike_instantiateThrough k _ _ _ _).committing _
  | swapTokens manager swap initialBalance etf funds =>
      exact (d.alike_swapTokens k _ _ _ _ _).committing _
  | redeemTokens manager etfName funds => exact (d.alike_execute k _ _ _).committing _

theorem alike_runSteps :
    ∀ steps, Alike d k (d.runSteps steps) ((d.withClient k).runSteps steps)
  | [] => .pure _
  | step :: rest => by
      refine .bind (d.alike_runStep k step) fun r => ?_
      cases r with
      | ok _ => exact alike_runSteps rest
      | error f =>
          by_cases hgo : d.policy.continueOnFailure = true
          · simp only [withClient_policy, hgo, if_true]
            exact .bind (alike_runSteps rest) fun _ => .pure _
          · simp only [withClient_policy, hgo]
            exact .pure _

end Operations

/-! ## What is known of acts that are built alike -/

/-- The parts of a deployment keep a relation between moments. -/
structure Carries (d : Deployment σ) (R : Nat × Progress σ → Nat × Progress σ → Prop) : Prop where
  onward : Onward R
  registry : ∀ t p g, R (t, p) (t, { p with registry := g })
  note : ∀ t p line, R (t, p) (t, { p with notes := p.notes ++ [line] })
  report : ∀ t p r, R (t, p) (t, { p with steps := p.steps ++ [r] })
  call : ∀ c, Timed.Keeps R (onWorld (d.client.call c))

variable {d : Deployment σ} {k : Client τ} {act : Act σ α} {act' : Act τ α}

/-- All acts of a deployment keep what its parts keep. -/
theorem Alike.keeps {R : Nat × Progress σ → Nat × Progress σ → Prop} (hR : d.Carries R)
    (h : Alike d k act act') : Timed.Keeps R act := by
  induction h with
  | pure a => exact Timed.keeps_pure hR.onward a
  | bind _ _ ih ihnext => exact Timed.keeps_bind hR.onward ih ihnext
  | now => exact Timed.keeps_now hR.onward
  | wait ms => exact Timed.keeps_wait hR.onward ms
  | pause => exact Timed.keeps_pause hR.onward
  | registry =>
      exact Timed.keeps_bind hR.onward (Timed.keeps_get hR.onward) fun _ =>
        Timed.keeps_pure hR.onward _
  | changeRegistry f => exact Timed.keeps_modify fun t p => hR.registry t p _
  | note line => exact Timed.keeps_modify fun t p => hR.note t p line
  | report r => exact Timed.keeps_modify fun t p => hR.report t p r
  | attempt c =>
      refine Timed.keeps_bind hR.onward (Timed.keeps_within hR.onward (hR.call c) _) fun r => ?_
      cases r with
      | some r => exact Timed.keeps_pure hR.onward r
      | none => exact Timed.keeps_pure hR.onward _

/-- Without a limit on the whole, an act ends: what it waits for has a limit of its own. -/
theorem Alike.ends (h : Alike d k act act') :
    ∀ now p, ∃ a t q, act.result now p = ⟨some a, t, q⟩ := by
  induction h with
  | bind _ _ ih ihnext =>
      intro now p
      obtain ⟨a, t, q, h⟩ := ih now p
      obtain ⟨b, t', q', h'⟩ := ihnext a t q
      exact ⟨b, t', q', (Timed.result_bind_of h).trans h'⟩
  | attempt c =>
      intro now p
      obtain ⟨r, t, q, h⟩ := Timed.result_within d.policy.operationTimeoutMs
        (onWorld (d.client.call c)) now p
      rw [Deployment.attempt, Timed.result_bind_of h]
      cases r with
      | some r => exact ⟨r, t, q, rfl⟩
      | none => exact ⟨_, t, q, rfl⟩
  | pure | now | wait | pause | registry | changeRegistry | note | report =>
      exact fun _ _ => ⟨_, _, _, rfl⟩

/-- A rollout as it is with the client's state replaced by a part of it. -/
def seenThrough (f : τ → σ) (p : Progress τ) : Progress σ := { p with world := f p.world }

theorem mapState_onWorld {f : τ → σ} {act : Timed σ α} {act' : Timed τ α}
    (h : ∀ now w, (act' now w).mapState f = act now (f w)) (now : Nat) (p : Progress τ) :
    (onWorld act' now p).mapState (seenThrough f) = onWorld act now (seenThrough f p) :=
  calc (onWorld act' now p).mapState (seenThrough f)
    _ = (act' now p.world).mapState (seenThrough f ∘ fun w => { p with world := w }) :=
        Course.mapState_mapState _ _ _
    _ = ((act' now p.world).mapState f).mapState fun w => { seenThrough f p with world := w } := by
        rw [Course.mapState_mapState]
        rfl
    _ = onWorld act now (seenThrough f p) := congrArg (Course.mapState _) (h now p.world)

/-- If a client does to a part of its state what another client does, the acts with the one are
those with the other. -/
theorem Alike.mapState {f : τ → σ}
    (hk : ∀ c now w, (k.call c now w).mapState f = d.client.call c now (f w))
    (h : Alike d k act act') :
    ∀ now p, (act' now p).mapState (seenThrough f) = act now (seenThrough f p) := by
  induction h with
  | bind _ _ ih ihnext =>
      intro now p
      exact (Course.mapState_andThen ihnext _ now).trans (congrArg (Course.andThen _ · now) (ih now p))
  | attempt c =>
      intro now p
      have hcall := mapState_onWorld (hk c) now p
      have hwithin : ((onWorld (k.call c)).within d.policy.operationTimeoutMs now p).mapState
          (seenThrough f) =
            (onWorld (d.client.call c)).within d.policy.operationTimeoutMs now (seenThrough f p) :=
        (Course.mapState_cut _ _ _).trans (congrArg (Course.cut · _) hcall)
      refine (Course.mapState_andThen (fun r _ _ => ?_) _ now).trans
        (congrArg (Course.andThen _ · now) hwithin)
      cases r <;> rfl
  | pure | now | wait | pause | registry | changeRegistry | note | report =>
      exact fun _ _ => rfl

end Deployment

end Rollout
