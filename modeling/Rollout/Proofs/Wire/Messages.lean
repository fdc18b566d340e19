import Rollout.Chain.Query
import Rollout.Proofs.Wire.Layouts
import Rollout.Tx.Message

/-!
# The messages of a transaction are read back

All layouts of which a transaction is made are exact, from its coins up to the signed transaction
and the query that simulates it. The headline is `TxMessage.ofTyped?_typed`: a message is read back
from its type name and its bytes as the message of its kind that it was.
-/

namespace Rollout

open Wire Wire.Part

theorem TypedValue.exact : TypedValue.layout.Exact := by
  refine Layout.exact_of_fills ⟨by decide, by decide⟩ fun a =>
    exact_text.fills ?_ rfl <| exact_bytes.fills ?_ rfl <| .nil a
  all_goals exact ⟨fun _ _ => rfl, fun _ _ _ => rfl, fun _ => rfl⟩

theorem CoinText.exact : CoinText.layout.Exact := by
  refine Layout.exact_of_fills ⟨by decide, by decide⟩ fun a =>
    exact_text.fills ?_ rfl <| exact_text.fills ?_ rfl <| .nil a
  all_goals exact ⟨fun _ _ => rfl, fun _ _ _ => rfl, fun _ => rfl⟩

/-! ## The parts of a transaction -/

theorem Fee.exact : Fee.layout.Exact := by
  refine Layout.exact_of_fills ⟨by decide, by decide⟩ fun a =>
    (exact_messages CoinText.exact).fills ?_ rfl <| exact_number.fills ?_ rfl <| .nil a
  all_goals exact ⟨fun _ _ => rfl, fun _ _ _ => rfl, fun _ => rfl⟩

theorem TxBody.exact : TxBody.layout.Exact := by
  refine Layout.exact_of_fills ⟨by decide, by decide⟩ fun a =>
    (exact_messages TypedValue.exact).fills ?_ rfl <| exact_text.fills ?_ rfl <|
      exact_number.fills ?_ rfl <| .nil a
  all_goals exact ⟨fun _ _ => rfl, fun _ _ _ => rfl, fun _ => rfl⟩

theorem SingleMode.exact : SingleMode.layout.Exact := by
  refine Layout.exact_of_fills ⟨by decide, by decide⟩ fun a =>
    exact_number.fills ?_ rfl <| .nil a
  all_goals exact ⟨fun _ _ => rfl, fun _ _ _ => rfl, fun _ => rfl⟩

theorem SignMode.exact : SignMode.layout.Exact := by
  refine Layout.exact_of_fills ⟨by decide, by decide⟩ fun a =>
    (exact_message SingleMode.exact).fills ?_ rfl <| .nil a
  all_goals exact ⟨fun _ _ => rfl, fun _ _ _ => rfl, fun _ => rfl⟩

theorem SignerInfo.exact : SignerInfo.layout.Exact := by
  refine Layout.exact_of_fills ⟨by decide, by decide⟩ fun a =>
    (exact_message TypedValue.exact).fills ?_ rfl <| (exact_message SignMode.exact).fills ?_ rfl <|
      exact_number.fills ?_ rfl <| .nil a
  all_goals exact ⟨fun _ _ => rfl, fun _ _ _ => rfl, fun _ => rfl⟩

theorem AuthInfo.exact : AuthInfo.layout.Exact := by
  refine Layout.exact_of_fills ⟨by decide, by decide⟩ fun a =>
    (exact_messages SignerInfo.exact).fills ?_ rfl <| (exact_message Fee.exact).fills ?_ rfl <|
      .nil a
  all_goals exact ⟨fun _ _ => rfl, fun _ _ _ => rfl, fun _ => rfl⟩

theorem SignedTx.exact : SignedTx.layout.Exact := by
  refine Layout.exact_of_fills ⟨by decide, by decide⟩ fun a =>
    exact_bytes.fills ?_ rfl <| exact_bytes.fills ?_ rfl <| exact_manyBytes.fills ?_ rfl <| .nil a
  all_goals exact ⟨fun _ _ => rfl, fun _ _ _ => rfl, fun _ => rfl⟩

theorem SimulationQuery.exact : SimulationQuery.layout.Exact := by
  refine Layout.exact_of_fills ⟨by decide, by decide⟩ fun a =>
    exact_bytes.fills ?_ rfl <| .nil a
  all_goals exact ⟨fun _ _ => rfl, fun _ _ _ => rfl, fun _ => rfl⟩

/-! ## What a transaction does -/

theorem StoreCode.exact : StoreCode.layout.Exact := by
  refine Layout.exact_of_fills ⟨by decide, by decide⟩ fun a =>
    exact_text.fills ?_ rfl <| exact_bytes.fills ?_ rfl <| .nil a
  all_goals exact ⟨fun _ _ => rfl, fun _ _ _ => rfl, fun _ => rfl⟩

theorem InstantiateContract.exact : InstantiateContract.layout.Exact := by
  refine Layout.exact_of_fills ⟨by decide, by decide⟩ fun a =>
    exact_text.fills ?_ rfl <| exact_text.fills ?_ rfl <| exact_number.fills ?_ rfl <|
      exact_text.fills ?_ rfl <| exact_bytes.fills ?_ rfl <|
      (exact_messages CoinText.exact).fills ?_ rfl <| .nil a
  all_goals exact ⟨fun _ _ => rfl, fun _ _ _ => rfl, fun _ => rfl⟩

theorem ExecuteContract.exact : ExecuteContract.layout.Exact := by
  refine Layout.exact_of_fills ⟨by decide, by decide⟩ fun a =>
    exact_text.fills ?_ rfl <| exact_text.fills ?_ rfl <| exact_bytes.fills ?_ rfl <|
      (exact_messages CoinText.exact).fills ?_ rfl <| .nil a
  all_goals exact ⟨fun _ _ => rfl, fun _ _ _ => rfl, fun _ => rfl⟩

theorem SendCoins.exact : SendCoins.layout.Exact := by
  refine Layout.exact_of_fills ⟨by decide, by decide⟩ fun a =>
    exact_text.fills ?_ rfl <| exact_text.fills ?_ rfl <|
      (exact_messages CoinText.exact).fills ?_ rfl <| .nil a
  all_goals exact ⟨fun _ _ => rfl, fun _ _ _ => rfl, fun _ => rfl⟩

/-- A message is read back as what it is. -/
theorem TxMessage.ofTyped?_typed {m : TxMessage} (h : m.bytes.length < UInt64.size) :
    ofTyped? m.typed = some m := by
  cases m with
  | storeCode m =>
      have hread := StoreCode.exact.decode?_encode h
      exact congrArg (Option.map storeCode) hread
  | instantiate m =>
      have hread := InstantiateContract.exact.decode?_encode h
      exact congrArg (Option.map instantiate) hread
  | execute m =>
      have hread := ExecuteContract.exact.decode?_encode h
      exact congrArg (Option.map execute) hread
  | send m =>
      have hread := SendCoins.exact.decode?_encode h
      exact congrArg (Option.map send) hread

end Rollout
