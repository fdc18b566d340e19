import Rollout.Proofs.Deployment.Calling

/-!
# Contracts that a manager instantiates

After a manager has instantiated a contract for a role, the role should point to that contract. It
does so exactly if the transaction reports the contract: then its address is recorded, whatever was
known of the role before. A transaction without such a report is a success all the same, and leaves
an older address of the role in place, so that later steps go on with the contract that was there
before (`instantiate_points`). A direct instantiation has no such gap: it succeeds with the address
of the contract or not at all.
-/

namespace Rollout

/-- A transaction reports that a contract was instantiated at an address. -/
def TxOutcome.Reports (o : TxOutcome) (address : String) : Prop :=
  ∃ e ∈ o.events, e.kind = "instantiate" ∧ ("_contract_address", address) ∈ e.attributes

namespace TxOutcome

theorem reports_of_findAttribute {o : TxOutcome} {address : String}
    (h : o.findAttribute "instantiate" "_contract_address" = some address) : o.Reports address := by
  obtain ⟨before, e, after, hevents, he, -⟩ := List.findSome?_eq_some_iff.mp h
  have hmem : e ∈ o.events.filter fun e => e.kind = "instantiate" := by
    rw [hevents]
    simp
  obtain ⟨hmem, hkind⟩ := List.mem_filter.mp hmem
  exact ⟨e, hmem, of_decide_eq_true hkind, mem_of_valueOf? he⟩

/-- An address is found if any is reported. -/
theorem findAttribute_of_reports {o : TxOutcome} {address : String} (h : o.Reports address) :
    ∃ found, o.findAttribute "instantiate" "_contract_address" = some found := by
  obtain ⟨e, hmem, hkind, hattribute⟩ := h
  refine Option.isSome_iff_exists.mp (List.findSome?_isSome_iff.mpr ⟨e, ?_, ?_⟩)
  · exact List.mem_filter.mpr ⟨hmem, decide_eq_true hkind⟩
  · exact Option.isSome_iff_exists.mpr (valueOf?_of_mem hattribute)

end TxOutcome

namespace Registry

@[simp] theorem address_recordAddress (g : Registry) (role address : String) :
    (g.recordAddress role address).address role = .ok address := by
  rw [Registry.address, get?, recordAddress, SortedMap.find?_insert, if_pos rfl]
  rfl

end Registry

/-- What a transaction of a manager for a role leaves in the registry. -/
structure Points (role : String) (before after : Registry) (r : Fallible TxOutcome) : Prop where
  failed : ∀ f, r = .error f → after = before
  /-- A contract that is reported is the role's from now on. -/
  reported : ∀ o, r = .ok o → (∃ address, o.Reports address) →
    ∃ address, o.Reports address ∧ after = before.recordAddress role address
      ∧ after.address role = .ok address
  /-- Without a report the role keeps what it had. -/
  unreported : ∀ o, r = .ok o → (¬∃ address, o.Reports address) → after = before

namespace Points

variable (role : String) (g : Registry)

theorem of_failure (f : Failure) : Points role g g (.error f) :=
  ⟨fun _ _ => rfl, nofun, fun _ _ _ => rfl⟩

/-- What is taken in from an outcome points the role to the contract that the outcome reports. -/
theorem of_outcome (o : TxOutcome) : Points role g (g.learn (Move.instantiated role o)) (.ok o) := by
  rw [Move.instantiated]
  cases hfound : o.findAttribute "instantiate" "_contract_address" with
  | some address =>
      have hreports := TxOutcome.reports_of_findAttribute hfound
      refine ⟨(fun _ h => by cases h), ?_, ?_⟩
      · rintro o' ⟨⟩ -
        exact ⟨address, hreports, rfl, g.address_recordAddress role address⟩
      · rintro o' ⟨⟩ hnone
        exact absurd ⟨address, hreports⟩ hnone
  | none =>
      refine ⟨(fun _ h => by cases h), ?_, fun _ _ _ => rfl⟩
      rintro o' ⟨⟩ ⟨address, hreports⟩
      obtain ⟨found, h⟩ := TxOutcome.findAttribute_of_reports hreports
      rw [hfound] at h
      cases h

end Points

namespace Deployment

variable (d : Deployment σ)

/-- What a transaction of a manager reports is recorded as soon as the transaction has ended. -/
theorem instantiateThrough_points (manager role : String) (funds : List Coin)
    (message : UInt64 → ManagerCall) (now : Nat) (p : Progress σ) :
    ∃ r t q, (d.instantiateThrough manager role funds message).result now p = ⟨some r, t, q⟩
      ∧ Points role p.registry q.registry r := by
  rw [(d.makes_instantiateThrough manager role funds message).result, Move.instantiateThrough]
  cases p.registry.codeId role with
  | error f => exact ⟨.error f, now, _, rfl, .of_failure role p.registry f⟩
  | ok codeId =>
      rw [Move.needs, Move.execute]
      cases p.registry.address manager with
      | error f => exact ⟨.error f, now, _, rfl, .of_failure role p.registry f⟩
      | ok contract =>
          obtain ⟨r, t, w, hcall⟩ := d.result_call
            (.execute d.sender contract (message codeId).encode funds) now p
          refine ⟨_, t, _, d.result_move hcall, ?_⟩
          cases r with
          | error f => exact .of_failure role p.registry f
          | ok o => exact .of_outcome role p.registry o

/-- A contract that is instantiated directly is the role's from now on. -/
theorem instantiate_address (role : String) (msg : Json) (label : Option String)
    (funds : List Coin) (now : Nat) (p : Progress σ) :
    ∃ r t q, (d.instantiate role msg label funds).result now p = ⟨some r, t, q⟩
      ∧ ∀ address, r = .ok address → q.registry.address role = .ok address := by
  rw [(d.makes_instantiate role msg label funds).result, Move.instantiate]
  cases p.registry.codeId role with
  | error f => exact ⟨.error f, now, _, rfl, nofun⟩
  | ok codeId =>
      obtain ⟨r, t, w, hcall⟩ :=
        d.result_call (.instantiate d.sender codeId msg (label.getD role) funds) now p
      refine ⟨_, t, _, d.result_move hcall, ?_⟩
      rintro address h
      cases r with
      | error f => cases h
      | ok found =>
          obtain rfl := Except.ok.inj h
          exact Registry.address_recordAddress p.registry role found

/-- What the ways of instantiating a contract leave in the registry. The transaction of a manager
points the role to a contract exactly if it reports one; it succeeds without a report as well, and
then the role keeps what it had. A direct instantiation points the role to its contract whenever it
succeeds. -/
theorem instantiate_points (now : Nat) (p : Progress σ) :
    (∀ manager swap debug funds, ∃ r t q,
      (d.instantiateSwap manager swap debug funds).result now p = ⟨some r, t, q⟩
        ∧ Points swap p.registry q.registry r)
    ∧ (∀ manager token etfName etfSymbol, ∃ r t q,
      (d.instantiateToken manager token etfName etfSymbol).result now p = ⟨some r, t, q⟩
        ∧ Points token p.registry q.registry r)
    ∧ ∀ role msg label funds, ∃ r t q,
      (d.instantiate role msg label funds).result now p = ⟨some r, t, q⟩
        ∧ ∀ address, r = .ok address → q.registry.address role = .ok address :=
  ⟨fun _ _ _ _ => d.instantiateThrough_points _ _ _ _ now p,
    fun _ _ _ _ => d.instantiateThrough_points _ _ _ _ now p,
    fun _ _ _ _ => d.instantiate_address _ _ _ _ now p⟩

/-- A manager reports a new swap contract, and the role points to it from then on. -/
theorem instantiate_points_of_reported :
    let d : Deployment Script := ⟨Script.client, "osmo1sender", .standard, ⟨[], []⟩⟩
    let o : TxOutcome := ⟨"AB12", 1, 0, 0, [⟨"instantiate", [("_contract_address", "osmo1new")]⟩]⟩
    let g := Registry.empty.learn
      [.contract "manager" "osmo1manager", .code "swap" 7, .contract "swap" "osmo1old"]
    ∃ t q, (d.instantiateSwap "manager" "swap" false []).result 0
        ⟨g, [], [], ⟨[⟨some 0, .ok (.outcome o)⟩], []⟩⟩ = ⟨some (.ok o), t, q⟩
      ∧ g.address "swap" = .ok "osmo1old" ∧ q.registry.address "swap" = .ok "osmo1new" := by
  intro d o g
  obtain ⟨r, t, q, hrun, hpoints⟩ := (d.instantiate_points 0
    ⟨g, [], [], ⟨[⟨some 0, .ok (.outcome o)⟩], []⟩⟩).1 "manager" "swap" false []
  obtain rfl : r = .ok o := by
    have hvalue : ((d.instantiateSwap "manager" "swap" false []).result 0
        ⟨g, [], [], ⟨[⟨some 0, .ok (.outcome o)⟩], []⟩⟩).value = some (.ok o) := by decide +kernel
    rw [hrun] at hvalue
    exact Option.some.inj hvalue
  obtain ⟨address, ⟨e, he, -, hattribute⟩, -, haddress⟩ := hpoints.reported o rfl
    ⟨"osmo1new", _, List.mem_singleton.mpr rfl, rfl, List.mem_singleton.mpr rfl⟩
  obtain rfl := List.mem_singleton.mp he
  obtain ⟨-, rfl⟩ := Prod.mk.inj (List.mem_singleton.mp hattribute)
  exact ⟨t, q, hrun, by decide +kernel, haddress⟩

/-- A manager's transaction succeeds without a report of the contract, and the role still points to
the contract that it had before. -/
theorem instantiateSwap_unreported :
    let d : Deployment Script := ⟨Script.client, "osmo1sender", .standard, ⟨[], []⟩⟩
    let o : TxOutcome := ⟨"AB12", 1, 0, 0, []⟩
    let g := Registry.empty.learn
      [.contract "manager" "osmo1manager", .code "swap" 7, .contract "swap" "osmo1old"]
    ∃ t q, (d.instantiateSwap "manager" "swap" false []).result 0
        ⟨g, [], [], ⟨[⟨some 0, .ok (.outcome o)⟩], []⟩⟩ = ⟨some (.ok o), t, q⟩
      ∧ g.address "swap" = .ok "osmo1old" ∧ q.registry.address "swap" = .ok "osmo1old"
      ∧ ¬∃ address, q.registry.address "swap" = .ok address ∧ o.Reports address := by
  intro d o g
  obtain ⟨r, t, q, hrun, hpoints⟩ := d.instantiateThrough_points "manager" "swap" []
    (fun codeId => .instantiateSwap codeId false) 0 ⟨g, [], [], ⟨[⟨some 0, .ok (.outcome o)⟩], []⟩⟩
  obtain rfl : r = .ok o := by
    have hvalue : ((d.instantiateSwap "manager" "swap" false []).result 0
        ⟨g, [], [], ⟨[⟨some 0, .ok (.outcome o)⟩], []⟩⟩).value = some (.ok o) := by decide +kernel
    exact Option.some.inj ((congrArg Timed.Result.value hrun).symm.trans hvalue)
  have hnone : ¬∃ address, o.Reports address := by
    rintro ⟨address, e, he, -⟩
    exact absurd he List.not_mem_nil
  have hold : g.address "swap" = .ok "osmo1old" := by decide +kernel
  refine ⟨t, q, hrun, hold, ?_, fun ⟨address, _, hreports⟩ => hnone ⟨address, hreports⟩⟩
  rw [hpoints.unreported o rfl hnone, hold]

end Deployment

end Rollout
