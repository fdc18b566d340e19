import Rollout.Proofs.Schema.Reading
import Rollout.Settings.Basic

/-!
# Settings that are accepted

Settings are checked in order, and the first check that fails names the fault. What is accepted
passes all of them (`Settings.validate_eq_ok_iff`): there is something in the endpoint, the name of
the chain and the prefix, the gas price has an amount and a denomination, and nothing is given no
time.
-/

namespace Rollout

namespace Settings

/-- Settings in which nothing is missing. -/
structure Complete (s : Settings) : Prop where
  endpoint : Text.allBlank s.network.rpcUrl = false
  chain : Text.allBlank s.network.chainId = false
  accountPrefix : Text.allBlank s.network.accountPrefix = false
  adjustment : ¬s.network.gasAdjustment ≤ 0.0
  priced : ∃ price, s.network.parsedGasPrice = .ok price
  operations : s.driver.operationTimeoutSecs ≠ 0
  scenarios : s.driver.scenarioTimeoutSecs ≠ 0

theorem validate_eq_ok_iff (s : Settings) : s.validate = .ok () ↔ s.Complete := by
  have hchecks : s.validate = .ok () ↔
      ¬Text.allBlank s.network.rpcUrl = true ∧ ¬Text.allBlank s.network.chainId = true
        ∧ ¬Text.allBlank s.network.accountPrefix = true ∧ ¬s.network.gasAdjustment ≤ 0.0
        ∧ ∃ price, s.network.parsedGasPrice = .ok price
          ∧ ¬(s.driver.operationTimeoutSecs = 0 || s.driver.scenarioTimeoutSecs = 0) = true := by
    rw [validate]
    refine check_eq_ok_iff.trans (and_congr_right fun _ => ?_)
    refine check_eq_ok_iff.trans (and_congr_right fun _ => ?_)
    refine check_eq_ok_iff.trans (and_congr_right fun _ => ?_)
    refine check_eq_ok_iff.trans (and_congr_right fun _ => ?_)
    refine bind_eq_ok_iff.trans (exists_congr fun price => and_congr_right fun _ => ?_)
    exact check_eq_ok_iff.trans (and_iff_left rfl)
  rw [hchecks]
  constructor
  · rintro ⟨hendpoint, hchain, hbegins, hadjustment, price, hprice, htimes⟩
    simp only [Bool.or_eq_true, decide_eq_true_eq, not_or] at htimes
    exact ⟨Bool.eq_false_iff.mpr hendpoint, Bool.eq_false_iff.mpr hchain,
      Bool.eq_false_iff.mpr hbegins, hadjustment, ⟨price, hprice⟩, htimes.1, htimes.2⟩
  · rintro ⟨hendpoint, hchain, hbegins, hadjustment, ⟨price, hprice⟩, hoperations, hscenarios⟩
    exact ⟨Bool.eq_false_iff.mp hendpoint, Bool.eq_false_iff.mp hchain,
      Bool.eq_false_iff.mp hbegins, hadjustment, price, hprice, by simp [hoperations, hscenarios]⟩

theorem ofNetwork_accepted {n : Network} {price : GasPrice}
    (hendpoint : Text.allBlank n.rpcUrl = false) (hchain : Text.allBlank n.chainId = false)
    (hbegins : Text.allBlank n.accountPrefix = false) (hadjustment : ¬n.gasAdjustment ≤ 0.0)
    (hpriced : n.parsedGasPrice = .ok price) : (ofNetwork n).validate = .ok () :=
  (validate_eq_ok_iff _).mpr ⟨hendpoint, hchain, hbegins, hadjustment, ⟨price, hpriced⟩,
    show RunPolicy.standard.operationTimeoutSecs ≠ 0 by decide,
    show RunPolicy.standard.scenarioTimeoutSecs ≠ 0 by decide⟩

end Settings

end Rollout
