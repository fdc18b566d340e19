import Rollout.Proofs.Deployment.Calling
import Rollout.Proofs.Run.Visits

/-!
# What a step does to the registry

A step writes to the record of at most one role, its subject, and only what the call told that
the write depends on. The one write that comes before a call is that of a code id that a step
names: it voids the contract of the role, and it stays if the step fails or is cut off.

`Step.Framed` says this of the registries before and after a step. Moves are looked at once for
each kind of step (`Move.tells_ofStep`), and `Deployment.runStep_ends` is the step lemma: while
a step waits and when it fails there is nothing new in the registry but the code that it names,
and a success adds what the step has found out. Over the walk of a run this gives
`Visits.frame`: what no visit is about is left alone, and addresses come from successes only.
-/

namespace Rollout

namespace Step

/-- The role whose record a step may change. -/
def subject? : Step → Option String
  | upload role _ => some role
  | instantiate role .. => some role
  | instantiateSwap _ swap .. => some swap
  | instantiateToken _ token .. => some token
  | _ => none

/-- The registry from which a step makes its call: the code that it names is in place. -/
def prepared (g : Registry) : Step → Registry
  | instantiate role _ _ (some codeId) _ => g.recordCode role codeId
  | _ => g

/-- What a step may find out when it succeeds: an upload its code, an instantiation its contract,
and the transaction of a manager the contract that stands in its events, if one does. -/
def Finds (found : List Finding) : Step → Prop
  | upload role _ => ∃ codeId, found = [.code role codeId]
  | instantiate role .. => ∃ address, found = [.contract role address]
  | instantiateSwap _ role .. => found = [] ∨ ∃ address, found = [.contract role address]
  | instantiateToken _ role .. => found = [] ∨ ∃ address, found = [.contract role address]
  | _ => found = []

/-- One registry comes from another by writes to the record of the subject of a step. -/
structure Confined (s : Step) (before after : Registry) : Prop where
  elsewhere : ∀ role, s.subject? ≠ some role → after.get? role = before.get? role
  untouched : s.subject? = none → after = before
  /-- No role is removed. -/
  kept : ∀ role, (before.get? role).isSome → (after.get? role).isSome

/-- What a step does to a registry, with the result that it ends with, or with none while it waits
and when it is cut off. -/
structure Framed (s : Step) (before : Registry) (r : Option (Fallible Unit)) (after : Registry) :
    Prop extends s.Confined before after where
  settled : r = some (.ok ()) → ∃ found, s.Finds found ∧ after = (s.prepared before).learn found
  unsettled : r ≠ some (.ok ()) → after = s.prepared before
  /-- No address comes in without a success. -/
  addresses : r ≠ some (.ok ()) →
    ∀ role address, after.address role = .ok address → before.address role = .ok address

variable {s : Step} {found : List Finding} {g : Registry}

theorem confined_learn (g : Registry) (habout : ∀ f ∈ found, s.subject? = some f.role) :
    s.Confined g (g.learn found) where
  elsewhere := by
    intro role hrole
    refine Registry.get?_learn_of_ne g fun f hf heq => hrole ?_
    rw [habout f hf, heq]
  untouched := by
    intro hnone
    have hfound : found = [] := by
      refine List.eq_nil_iff_forall_not_mem.mpr fun f hf => ?_
      have hsome := habout f hf
      rw [hnone] at hsome
      cases hsome
    rw [hfound, Registry.learn_nil]
  kept := fun role hrole => Registry.isSome_get?_learn found hrole

theorem Confined.trans {before between after : Registry} (h : s.Confined before between)
    (h' : s.Confined between after) : s.Confined before after where
  elsewhere := fun role hrole => (h'.elsewhere role hrole).trans (h.elsewhere role hrole)
  untouched := fun hnone => (h'.untouched hnone).trans (h.untouched hnone)
  kept := fun role hrole => h'.kept role (h.kept role hrole)

/-! ## The code that a step names -/

theorem prepared_eq (s : Step) (g : Registry) : s.prepared g = g.learn s.announced := by
  cases s with
  | instantiate role msg label codeId funds => cases codeId <;> rfl
  | _ => rfl

theorem confined_prepared (s : Step) (g : Registry) : s.Confined g (s.prepared g) := by
  rw [prepared_eq]
  refine confined_learn g fun f hf => ?_
  cases s with
  | instantiate role msg label codeId funds =>
      cases codeId with
      | none => cases hf
      | some codeId =>
          obtain rfl := List.mem_singleton.mp hf
          rfl
  | _ => cases hf

/-- Code brings in no address. -/
theorem address_prepared {role address : String} (h : (s.prepared g).address role = .ok address) :
    g.address role = .ok address := by
  cases s with
  | instantiate other msg label codeId funds =>
      cases codeId with
      | none => exact h
      | some codeId =>
          have hget : (g.recordCode other codeId).get? role =
              if other = role then some ⟨some codeId, none⟩ else g.get? role :=
            SortedMap.find?_insert _ _ _ _
          rw [prepared, Registry.address, hget] at h
          by_cases hrole : other = role
          · rw [if_pos hrole] at h
            cases h
          · rw [if_neg hrole] at h
            exact h
  | _ => exact h

/-- A step that has not succeeded leaves nothing but the code that it names. -/
theorem framed_prepared (s : Step) (g : Registry) {r : Option (Fallible Unit)}
    (hr : r ≠ some (.ok ())) : s.Framed g r (s.prepared g) where
  toConfined := s.confined_prepared g
  settled := fun h => absurd h hr
  unsettled := fun _ => rfl
  addresses := fun _ _ _ h => address_prepared h

/-! ## What a step finds out -/

/-- Whatever a step finds out is about its subject. -/
theorem Finds.about (h : s.Finds found) : ∀ f ∈ found, s.subject? = some f.role := by
  intro f hf
  cases s with
  | upload role artifact =>
      obtain ⟨codeId, rfl⟩ := h
      obtain rfl := List.mem_singleton.mp hf
      rfl
  | instantiate role msg label codeId funds =>
      obtain ⟨address, rfl⟩ := h
      obtain rfl := List.mem_singleton.mp hf
      rfl
  | instantiateSwap manager role debug funds =>
      rcases h with rfl | ⟨address, rfl⟩
      · cases hf
      · obtain rfl := List.mem_singleton.mp hf
        rfl
  | instantiateToken manager role etfName etfSymbol =>
      rcases h with rfl | ⟨address, rfl⟩
      · cases hf
      · obtain rfl := List.mem_singleton.mp hf
        rfl
  | _ =>
      obtain rfl : found = [] := h
      cases hf

theorem Finds.framed (h : s.Finds found) (g : Registry) :
    s.Framed g (some (.ok ())) ((s.prepared g).learn found) where
  toConfined := (s.confined_prepared g).trans (confined_learn _ h.about)
  settled := fun _ => ⟨found, h, rfl⟩
  unsettled := fun hr => absurd rfl hr
  addresses := fun hr => absurd rfl hr

end Step

/-! ## The move of a step -/

/-- A move finds out what its step may find out, and nothing if it fails. -/
def Move.Tells (s : Step) : Move Unit → Prop
  | .fails .. => True
  | .calls c _ found _ value =>
    ∀ a : c.Answer, (value a = .ok () ∧ s.Finds (found a)) ∨ ∃ f, value a = .error f ∧ found a = []

namespace Move

theorem tells_needs {s : Step} (report : Option (Operation × Option String)) (need : Fallible β)
    {next : β → Move Unit} (h : ∀ b, (next b).Tells s) : (needs report need next).Tells s := by
  cases need with
  | ok b => exact h b
  | error f => trivial

theorem finds_instantiated (role : String) (o : TxOutcome) :
    instantiated role o = [] ∨ ∃ address, instantiated role o = [.contract role address] := by
  rw [instantiated]
  cases o.findAttribute "instantiate" "_contract_address" with
  | none => exact .inl rfl
  | some address => exact .inr ⟨address, rfl⟩

variable (d : Deployment σ) (g : Registry)

/-- A transaction tells nothing by itself. -/
theorem tells_execute {s : Step} (hfinds : s.Finds []) (role : String) (msg : Json)
    (funds : List Coin) : ((execute d g role msg funds).committing s).Tells s := by
  rw [execute, committing, followed_needs]
  exact tells_needs _ _ fun contract o => .inl ⟨rfl, hfinds⟩

theorem tells_instantiateThrough {s : Step} {role : String}
    (hfinds : ∀ o, s.Finds (instantiated role o)) (manager : String) (funds : List Coin)
    (message : UInt64 → ManagerCall) :
    ((instantiateThrough d g manager role funds message).committing s).Tells s := by
  rw [instantiateThrough, committing, followed_needs]
  refine tells_needs _ _ fun codeId => ?_
  rw [execute, followed_needs, followed_needs]
  refine tells_needs _ _ fun contract o => .inl ⟨rfl, ?_⟩
  have hfound : instantiated role o ++ [] = instantiated role o := List.append_nil _
  have hfinds' : s.Finds (instantiated role o ++ []) := by
    rw [hfound]
    exact hfinds o
  exact hfinds'

theorem tells_ofStep (s : Step) : (ofStep d g s).Tells s := by
  cases s with
  | upload role artifact =>
      rw [ofStep, uploadArtifact, reads, followed_needs]
      exact tells_needs _ _ fun wasm codeId => .inl ⟨rfl, codeId, rfl⟩
  | instantiate role msg label codeId funds =>
      rw [ofStep, instantiate, reads, followed_needs]
      exact tells_needs _ _ fun codeId address => .inl ⟨rfl, address, rfl⟩
  | execute role msg funds =>
      have hfinds : (Step.execute role msg funds).Finds [] := rfl
      exact tells_execute d g hfinds role msg funds
  | query role msg expect =>
      rw [ofStep, query, reads, followed_needs]
      refine tells_needs _ _ fun contract response => ?_
      -- a response that was not expected comes from a call that has succeeded
      cases hmeets : Deployment.meets role response expect with
      | ok _ => exact .inl ⟨hmeets, rfl⟩
      | error f => exact .inr ⟨f, hmeets, rfl⟩
  | balance address denom => exact fun coin => .inl ⟨rfl, rfl⟩
  | send recipient amount => exact fun o => .inl ⟨rfl, rfl⟩
  | instantiateSwap manager role debug funds =>
      have hfinds : ∀ o, (Step.instantiateSwap manager role debug funds).Finds
          (instantiated role o) := finds_instantiated role
      exact tells_instantiateThrough d g hfinds manager funds _
  | instantiateToken manager role etfName etfSymbol =>
      have hfinds : ∀ o, (Step.instantiateToken manager role etfName etfSymbol).Finds
          (instantiated role o) := finds_instantiated role
      exact tells_instantiateThrough d g hfinds manager [] _
  | swapTokens manager swap balance etf funds =>
      have hfinds : (Step.swapTokens manager swap balance etf funds).Finds [] := rfl
      rw [ofStep, swapTokens.eq_def, committing, followed_needs]
      exact tells_needs _ _ fun contract => tells_execute d g hfinds manager _ funds
  | redeemTokens manager etfName funds =>
      have hfinds : (Step.redeemTokens manager etfName funds).Finds [] := rfl
      exact tells_execute d g hfinds manager _ funds

end Move

/-! ## One step -/

/-- What a step has made of the registry from which it made its call. -/
def Step.Ends (s : Step) (g : Registry) (r : Fallible Unit) (after : Registry) : Prop :=
  match r with
  | .ok _ => ∃ found, s.Finds found ∧ after = g.learn found
  | .error _ => after = g

namespace Deployment

variable (d : Deployment σ)

theorem act_ends {m : Move Unit} {s : Step} (htells : m.Tells s) (now : Nat) (p : Progress σ) :
    (m.act d now p).Meets (fun q => q.registry = p.registry)
      fun r q => s.Ends p.registry r q.registry := by
  cases m with
  | fails report f => exact Registry.learn_nil p.registry
  | calls c role found notes value =>
      have hwaits : ∀ q : Progress σ, p.Only (fun _ => True) q → q.registry = p.registry := by
        rintro q ⟨w, rfl, -⟩
        rfl
      have hcall := (d.call_only c now p).weaken hwaits fun _ q hq => hwaits q hq
      refine hcall.andThen fun r t q hq => ?_
      cases r with
      | error f => exact hq
      | ok a =>
          change s.Ends p.registry (value a) (q.registry.learn (found a))
          rcases htells a with ⟨hvalue, hfinds⟩ | ⟨f, hvalue, hnone⟩
          · rw [hvalue, hq]
            exact ⟨found a, hfinds, rfl⟩
          · rw [hvalue, hnone, hq]
            exact Registry.learn_nil p.registry

/-- While a step waits and when it fails the registry is the one from which it makes its call. -/
theorem runStep_ends (s : Step) (now : Nat) (p : Progress σ) :
    (d.runStep s now p).Meets (fun q => q.registry = s.prepared p.registry)
      fun r q => s.Ends (s.prepared p.registry) r q.registry := by
  have hjob : d.runStep s now p = ((Job.step s).opening now p).andThen
      (fun _ t q => (Move.ofStep d q.registry s).act d t q) now := d.job_eq (.step s) now p
  have hopened : ∀ q : Progress σ, q = (Job.step s).opened p →
      q.registry = s.prepared p.registry := by
    rintro q rfl
    exact (s.prepared_eq p.registry).symm
  rw [hjob]
  refine (((Job.step s).opening_meets now p).weaken hopened fun _ q hq => hopened q hq).andThen
    fun _ t q hq => ?_
  have hact := d.act_ends (Move.tells_ofStep d q.registry s) t q
  rw [hq] at hact
  rw [hq]
  exact hact

end Deployment

theorem Step.Ends.framed {s : Step} {g after : Registry} {r : Fallible Unit}
    (h : s.Ends (s.prepared g) r after) : s.Framed g (some r) after := by
  cases r with
  | ok _ =>
      obtain ⟨found, hfinds, rfl⟩ := h
      exact hfinds.framed g
  | error f =>
      obtain rfl : after = s.prepared g := h
      exact s.framed_prepared g fun hr => by cases hr

/-- Whether it has ended or was cut off, a visit has done to the registry what its step may do. -/
theorem Visit.Ran.framed {d : Deployment σ} {v : Visit σ} (h : v.Ran d) :
    v.step.Framed v.started.2.registry v.result v.ended.2.registry := by
  obtain ⟨ms, hrun⟩ := h
  rcases (d.runStep_ends v.step v.started.1 v.started.2).finish_cut ms
    v.started.1 with ⟨r, t, q, hcut, hends⟩ | ⟨t, q, hcut, hwaits⟩
  · obtain ⟨hr, -, rfl⟩ := Timed.Result.mk.inj (hcut.symm.trans hrun)
    rw [← Option.some.inj hr]
    exact Step.Ends.framed hends
  · obtain ⟨hr, -, rfl⟩ := Timed.Result.mk.inj (hcut.symm.trans hrun)
    rw [← Option.some.inj hr, hwaits]
    exact v.step.framed_prepared _ fun hnone => by cases hnone

/-! ## The whole run -/

/-- What the visits of a walk have done to the registry. -/
structure Visits.Frame (visits : List (Visit σ)) (before after : Registry) : Prop where
  steps : ∀ v ∈ visits, v.step.Framed v.started.2.registry v.result v.ended.2.registry
  elsewhere : ∀ role, (∀ v ∈ visits, v.step.subject? ≠ some role) →
    after.get? role = before.get? role
  kept : ∀ role, (before.get? role).isSome → (after.get? role).isSome
  /-- An address was there before or has come in with the success of a step of its role. -/
  addresses : ∀ role address, after.address role = .ok address →
    before.address role = .ok address
      ∨ ∃ v ∈ visits, v.result = some (.ok ()) ∧ v.step.subject? = some role

theorem Visits.frame {d : Deployment σ} {m stop : Moment σ} {visits : List (Visit σ)}
    (h : Visits d m visits stop) : Visits.Frame visits m.2.registry stop.2.registry := by
  induction h with
  | @done m stop h =>
      rw [h.registry]
      exact ⟨fun v hv => absurd hv List.not_mem_nil, fun _ _ => rfl, fun _ h => h,
        fun _ _ h => .inl h⟩
  | @next m stop v rest h hran _ ih =>
      rw [h.registry]
      have hframed := hran.framed
      refine ⟨?_, ?_, ?_, ?_⟩
      · intro v' hv'
        rcases List.mem_cons.mp hv' with rfl | hrest
        · exact hframed
        · exact ih.steps v' hrest
      · intro role hrole
        have hrest := ih.elsewhere role fun v' hv' => hrole v' (List.mem_cons_of_mem _ hv')
        exact hrest.trans (hframed.elsewhere role (hrole v List.mem_cons_self))
      · exact fun role hrole => ih.kept role (hframed.kept role hrole)
      · intro role address haddress
        rcases ih.addresses role address haddress with hended | ⟨v', hv', hsuccess, hsubject⟩
        · by_cases hok : v.result = some (.ok ())
          · by_cases hsubject : v.step.subject? = some role
            · exact .inr ⟨v, List.mem_cons_self, hok, hsubject⟩
            · have hsame := hframed.elsewhere role hsubject
              rw [Registry.address, hsame] at hended
              exact .inl hended
          · exact .inl (hframed.addresses hok role address hended)
        · exact .inr ⟨v', List.mem_cons_of_mem _ hv', hsuccess, hsubject⟩

namespace Deployment

variable (d : Deployment σ)

/-- The frame of a step. While it waits, wherever it may be cut off, and when it ends, a step has
changed at most the record of its subject and removed no role. Unless it has succeeded, the
registry is as before but for the code that it names, and there is no new address. So it is for
every step that a scenario comes to within its time. -/
theorem runStep_framed (s : Step) (now : Nat) (p : Progress σ) :
    (d.runStep s now p).Meets (fun q => s.Framed p.registry none q.registry)
        (fun r q => s.Framed p.registry (some r) q.registry)
      ∧ (∀ ms, ∃ r t q, ((d.runStep s).within ms).result now p = ⟨some r, t, q⟩
        ∧ s.Framed p.registry r q.registry)
      ∧ ∀ scenario : Scenario, ∃ r t q visits,
        ((d.runSteps scenario.steps).within (d.deadline scenario)).result now p = ⟨some r, t, q⟩
          ∧ Executes d (now, p) scenario.steps visits r (t, q)
          ∧ Visits.Frame visits p.registry q.registry := by
  refine ⟨?_, fun ms => ?_, fun scenario => ?_⟩
  · refine (d.runStep_ends s now p).weaken (fun q hq => ?_) fun r q hends => Step.Ends.framed hends
    rw [hq]
    exact s.framed_prepared _ fun hnone => by cases hnone
  · obtain ⟨r, t, q, hrun⟩ := Timed.result_within ms (d.runStep s) now p
    have hran : Visit.Ran d ⟨s, (now, p), r, (t, q)⟩ := ⟨ms, hrun⟩
    exact ⟨r, t, q, hrun, hran.framed⟩
  · obtain ⟨r, t, q, visits, hrun, -, hexec⟩ := d.runScenario_executes scenario now p
    exact ⟨r, t, q, visits, hrun, hexec, hexec.walk.frame⟩

/-- A chain that refuses an instantiation leaves the code that the step has named, and no contract
of the role. -/
example :
    let d : Deployment Script :=
      ⟨Script.client, "osmo1", ⟨60, 60, true, "", .standard⟩, ⟨[], []⟩⟩
    let g := (Registry.empty.recordCode "swap" 7).recordAddress "swap" "osmo1first"
    let script : Script := ⟨[⟨some 5, .error (.instantiateRejected "no")⟩], []⟩
    ((d.runStep (.instantiate "swap" (.obj []) none (some 9) [])).result 0
      ⟨g, [], [], script⟩).state.registry = Registry.empty.recordCode "swap" 9 := by
  decide +kernel

end Deployment

end Rollout
