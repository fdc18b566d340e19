import Rollout.Proofs.Deployment.Calling
import Rollout.Proofs.Deployment.Logging
import Rollout.Proofs.Fund.Messages

/-!
# What a step asks a manager for

Four kinds of step go through a manager contract. `Step.Asks` says what each of them asks for, from
what is in the registry, and `Deployment.Asks` how that is put to the chain: a transaction to the
recorded address of the manager, with a message that is read back as what is asked for.

A move makes one call (`Move.CallsOnly`), so whatever a client has been called with by the end of a
step, or by the time at which the step is cut off, is that call (`runStep_logs`).
-/

namespace Rollout

/-! ## The calls of a move -/

/-- A move makes no call but one with a property. -/
def Move.CallsOnly (P : Call → Prop) : Move α → Prop
  | .fails .. => True
  | .calls c .. => P c

namespace Move

variable {P : Call → Prop}

theorem CallsOnly.followed {m : Move α} (h : m.CallsOnly P) {found : α → List Finding}
    {notes : α → List String} {value : α → Fallible β} :
    (m.followed found notes value).CallsOnly P := by
  cases m with
  | fails => trivial
  | calls => exact h

theorem callsOnly_needs {report : Option (Operation × Option String)} {need : Fallible β}
    {next : β → Move α} (h : ∀ b, need = .ok b → (next b).CallsOnly P) :
    (needs report need next).CallsOnly P := by
  cases need with
  | ok b => exact h b rfl
  | error f => trivial

end Move

/-- Every call in a log has a property. -/
def Logged.All (P : Call → Prop) (w : Logged σ) : Prop := ∀ e ∈ w.1, P e.2

theorem Logged.All.append {P : Call → Prop} {w : Logged σ} (h : Logged.All P w) {c : Call} (hc : P c)
    (now : Nat) (s : σ) : Logged.All P (w.1 ++ [(now, c)], s) := by
  intro e he
  rcases List.mem_append.mp he with he | he
  · exact h e he
  · obtain rfl := List.mem_singleton.mp he
    exact hc

namespace Deployment

variable (d : Deployment σ) {P : Call → Prop}

/-- All attempts at a call are logged as that call. -/
theorem call_logs {c : Call} (hc : P c) (now : Nat) {p : Progress (Logged σ)}
    (hp : Logged.All P p.world) :
    (d.logging.call c now p).Meets (fun q => Logged.All P q.world)
      fun _ q => Logged.All P q.world := by
  have hattempt : ∀ now w, Logged.All P w → (d.logging.client.call c now w).Meets
      (Logged.All P) (Unless (Logged.All P) fun _ => Logged.All P) := by
    intro now w hw
    have hlogged : d.logging.client.call c now w = _ := d.client.logging_call c now w
    rw [hlogged]
    refine Course.meets_mapState (fun s => hw.append hc now s) (fun r s => ?_) _
    cases r <;> exact hw.append hc now s
  refine (d.logging.call_meets hattempt now hp).weaken ?_ ?_
  · rintro q ⟨w, rfl, hw⟩
    exact hw
  · rintro r q ⟨w, rfl, hw⟩
    cases r <;> exact hw

theorem act_logs {m : Move α} (hm : m.CallsOnly P) (now : Nat) {p : Progress (Logged σ)}
    (hp : Logged.All P p.world) :
    (m.act d.logging now p).Meets (fun q => Logged.All P q.world)
      fun _ q => Logged.All P q.world := by
  cases m with
  | fails report f => exact hp
  | calls c role found notes value =>
      refine (d.call_logs hm now hp).andThen fun r t q hq => ?_
      exact hq

/-- What a step has called by its end, or by the time at which it is cut off. -/
theorem runStep_logs {s : Step} {now : Nat} {p : Progress σ}
    (hs : (Move.ofStep d.logging (p.registry.learn s.announced) s).CallsOnly P) :
    (∀ e ∈ callsOf (d.logging.runStep s) now p, P e.2)
      ∧ ∀ ms, ∀ e ∈ callsOf ((d.logging.runStep s).within ms) now p, P e.2 := by
  have hjob : d.logging.runStep s now p.withLog =
      ((Job.step s).opening now p.withLog).andThen
        (fun _ t q => (Move.ofStep d.logging q.registry s).act d.logging t q) now :=
    d.logging.job_eq (.step s) now p.withLog
  have hempty : Logged.All P p.withLog.world := fun e he => absurd he List.not_mem_nil
  have hopened : Logged.All P ((Job.step s).opened p.withLog).world := hempty
  have hmeets : (d.logging.runStep s now p.withLog).Meets (fun q => Logged.All P q.world)
      fun _ q => Logged.All P q.world := by
    rw [hjob]
    refine (((Job.step s).opening_meets now p.withLog).weaken (fun q hq => hq ▸ hopened)
      fun _ q hq => hq).andThen fun _ t q hq => ?_
    subst hq
    exact d.act_logs hs t hopened
  refine ⟨hmeets.settled now, fun ms => ?_⟩
  refine ((hmeets.cut ms).weaken (fun _ h => h) fun r q hq => ?_).settled now
  cases r <;> exact hq

end Deployment

/-! ## What the steps ask for -/

/-- The role of the manager that a step goes through. -/
def Step.manager? : Step → Option String
  | instantiateSwap manager .. => some manager
  | instantiateToken manager .. => some manager
  | swapTokens manager .. => some manager
  | redeemTokens manager .. => some manager
  | _ => none

/-- What a step asks a manager for, and the funds that it sends along: code is asked for by the id
that is recorded for a role, and a swap contract by its recorded address, if a role is named. -/
inductive Step.Asks (g : Registry) : Step → ManagerCall → List Coin → Prop
  | instantiateSwap {manager swap : String} {debug : Bool} {funds : List Coin} {codeId : UInt64}
      (h : g.codeId swap = .ok codeId) :
      Asks g (.instantiateSwap manager swap debug funds) (.instantiateSwap codeId debug) funds
  | instantiateToken {manager token etfName etfSymbol : String} {codeId : UInt64}
      (h : g.codeId token = .ok codeId) :
      Asks g (.instantiateToken manager token etfName etfSymbol)
        (.instantiateToken codeId etfName etfSymbol) []
  | swapThrough {manager swap address : String} {balance : Coin} {etf : Bundle}
      {funds : List Coin} (h : g.address swap = .ok address) :
      Asks g (.swapTokens manager (some swap) balance etf funds)
        (.swapTokens (some address) balance etf) funds
  | swap {manager : String} {balance : Coin} {etf : Bundle} {funds : List Coin} :
      Asks g (.swapTokens manager none balance etf funds) (.swapTokens none balance etf) funds
  | redeemTokens {manager etfName : String} {funds : List Coin} :
      Asks g (.redeemTokens manager etfName funds) (.redeemTokens etfName) funds

/-- The swap contract that a call names. -/
def ManagerCall.contract? : ManagerCall → Option String
  | swapTokens contract _ _ => contract
  | _ => none

/-- There is a key for the swap contract exactly if one is named. -/
theorem ManagerCall.contract_encode (m : ManagerCall) :
    (m.encode.field? "swap_tokens").bind (·.field? "contract") = m.contract?.map .str := by
  cases m with
  | swapTokens contract balance etf =>
      cases contract with
      | none =>
          exact Json.lookup_sortFields
            [("initial_balance", balance.encode), ("etf_swap_routes", etf.encode)] (by simp)
            "contract"
      | some address =>
          exact Json.lookup_sortFields
            [("contract", .str address), ("initial_balance", balance.encode),
              ("etf_swap_routes", etf.encode)] (by simp) "contract"
  | _ => rfl

namespace Deployment

variable (d : Deployment σ) (g : Registry)

/-- A call puts to a manager what a step asks for: it is a transaction to the address of the manager
whose message is read back as what is asked for. -/
def Asks (s : Step) (manager : String) (c : Call) : Prop :=
  ∃ m funds address msg, s.Asks g m funds ∧ g.address manager = .ok address
    ∧ c = .execute d.sender address msg funds ∧ ManagerCall.decode msg = .ok m
    ∧ (msg.field? "swap_tokens").bind (·.field? "contract") = m.contract?.map .str

variable {d g}

theorem asks_execute {s : Step} {m : ManagerCall} {funds : List Coin} (h : s.Asks g m funds)
    (manager : String) :
    (Move.execute d g manager m.encode funds).CallsOnly (d.Asks g s manager) :=
  Move.callsOnly_needs fun address haddress =>
    ⟨m, funds, address, m.encode, h, haddress, rfl, ManagerCall.inverts m, m.contract_encode⟩

theorem asks_ofStep {s : Step} {manager : String} (h : s.manager? = some manager) :
    (Move.ofStep d g s).CallsOnly (d.Asks g s manager) := by
  cases s with
  | instantiateSwap role swap debug funds =>
      obtain rfl := Option.some.inj h
      exact (Move.callsOnly_needs fun codeId hcode =>
        (asks_execute (.instantiateSwap hcode) role).followed).followed
  | instantiateToken role token etfName etfSymbol =>
      obtain rfl := Option.some.inj h
      exact (Move.callsOnly_needs fun codeId hcode =>
        (asks_execute (.instantiateToken hcode) role).followed).followed
  | swapTokens role swap balance etf funds =>
      obtain rfl := Option.some.inj h
      refine (Move.callsOnly_needs fun contract hcontract => ?_).followed
      cases swap with
      | none =>
          obtain rfl := Except.ok.inj hcontract
          exact asks_execute .swap role
      | some swap =>
          obtain ⟨address, haddress, rfl⟩ := map_eq_ok_iff.mp hcontract
          exact asks_execute (.swapThrough haddress) role
  | redeemTokens role etfName funds =>
      obtain rfl := Option.some.inj h
      exact (asks_execute .redeemTokens role).followed
  | _ => cases h

theorem runStep_asks (d : Deployment σ) {s : Step} {manager : String}
    (h : s.manager? = some manager) (now : Nat) (p : Progress σ) :
    (∀ e ∈ callsOf (d.logging.runStep s) now p, d.Asks p.registry s manager e.2)
      ∧ ∀ ms, ∀ e ∈ callsOf ((d.logging.runStep s).within ms) now p,
        d.Asks p.registry s manager e.2 := by
  -- Only an instantiation adds to the registry before its call, and it goes through no manager.
  have hnothing : s.announced = [] := by
    cases s with
    | instantiate => cases h
    | _ => rfl
  refine d.runStep_logs ?_
  rw [hnothing, Registry.learn_nil]
  exact asks_ofStep h

/-- Whatever a step that goes through a manager makes a client do, to its end or until it is cut off,
is the one transaction that it asks for; and the messages that can be sent to the fund contracts are
read back as they were meant. -/
theorem manager_steps_say :
    (∀ {σ : Type} (d : Deployment σ) (s : Step) (manager : String), s.manager? = some manager →
      ∀ now p, (∀ e ∈ callsOf (d.logging.runStep s) now p, d.Asks p.registry s manager e.2)
        ∧ ∀ ms, ∀ e ∈ callsOf ((d.logging.runStep s).within ms) now p,
          d.Asks p.registry s manager e.2)
      ∧ (∀ m, ManagerCall.decode m.encode = .ok m)
      ∧ (∀ q, ManagerQuery.decode q.encode = .ok q)
      ∧ ∀ q, SwapQuery.decode q.encode = .ok q :=
  ⟨fun d _ _ h now p => d.runStep_asks h now p, ManagerCall.inverts, ManagerQuery.inverts,
    SwapQuery.inverts⟩

/-- A swap through a contract whose address is recorded: the client is called twice, since the first
answer is a lost connection, and both times with the address in the message. -/
theorem manager_steps_say_of_swap :
    let d : Deployment Script :=
      ⟨Script.client, "osmo1", { RunPolicy.standard with retry := ⟨1, 100, 2.0⟩ }, ⟨[], []⟩⟩
    let g := (Registry.empty.recordAddress "manager" "osmo1manager").recordAddress "swap" "osmo1swap"
    let p : Progress Script := ⟨g, [], [], ⟨[⟨some 5, .error (.connection "reset")⟩], []⟩⟩
    let balance : Coin := ⟨"uosmo", ⟨7, by decide⟩⟩
    let etf : Bundle :=
      ⟨"fund", [⟨1, "uion"⟩], [⟨50, by decide⟩], by decide, by decide, rfl, by decide⟩
    let calls := callsOf (d.logging.runStep (.swapTokens "manager" (some "swap") balance etf [balance]))
      0 p
    calls.length = 2 ∧ ∀ e ∈ calls, ∃ msg, e.2 = .execute "osmo1" "osmo1manager" msg [balance]
      ∧ ManagerCall.decode msg = .ok (.swapTokens (some "osmo1swap") balance etf) := by
  intro d g p balance etf calls
  refine ⟨by decide +kernel, fun e he => ?_⟩
  have hasks := (manager_steps_say.1 d (.swapTokens "manager" (some "swap") balance etf [balance])
    "manager" rfl 0 p).1 e he
  obtain ⟨m, funds, address, msg, hstep, haddress, hcall, hdecode, -⟩ := hasks
  have hmanager : g.address "manager" = .ok "osmo1manager" := rfl
  have hswap : g.address "swap" = .ok "osmo1swap" := rfl
  cases hstep with
  | swapThrough h =>
      obtain rfl := Except.ok.inj (hmanager.symm.trans haddress)
      obtain rfl := Except.ok.inj (hswap.symm.trans h)
      exact ⟨msg, hcall, hdecode⟩

end Deployment

end Rollout
