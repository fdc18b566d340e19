import Rollout.Proofs.Fund.Bundles

/-!
# Coins and messages that are read back

A coin is read in two notations, as a text and by its fields, and a list of coins item by item
(`Coin.decodeList_eq_ok_iff`): which of the two notations an item has makes no difference. Every
message of the fund contracts, calls and queries alike, is read back from what is written of it.
-/

namespace Rollout

/-! ## Coins -/

namespace Coin

/-- A value gives the denomination and the amount of a coin. -/
def Given (v : Json) (c : Coin) : Prop :=
  ∃ amount, v.Gives ["denom", "amount"] [.str c.denom, amount] ∧ c.amount.Written amount

/-- A value is a coin in one of the two notations. -/
def Noted (v : Json) (c : Coin) : Prop :=
  (∃ s, v = .str s ∧ parse s = .ok c) ∨ Given v c

theorem shape_eq_ok_iff {v : Json} {c : Coin} : shape.decode v = .ok c ↔ Given v c := by
  simp only [Shape.decode_eq_ok_iff, Given,
    Json.gives_iff (show ["denom", "amount"].Nodup by decide)]
  simp only [shape, Shape.read_field, Shape.read_of, Decode.text_eq_ok_iff,
    Amount.decode_eq_ok_iff]
  constructor
  · rintro ⟨r, hr, _, _, ⟨_, _, rfl, ⟨_, hdenom, rfl⟩, rfl⟩, ⟨w, hamount, hw⟩, rfl⟩
    exact ⟨w, ⟨r, hr, by simp [hdenom, hamount]⟩, hw⟩
  · rintro ⟨w, ⟨r, hr, h⟩, hw⟩
    obtain ⟨hdenom, hamount⟩ : Json.lookup r.fields "denom" = some (.str c.denom)
        ∧ Json.lookup r.fields "amount" = some w := by simpa using h
    exact ⟨r, hr, _, _, ⟨_, _, rfl, ⟨_, hdenom, rfl⟩, rfl⟩, ⟨w, hamount, hw⟩, rfl⟩

theorem decode_str (s : String) : decode (.str s) = (parse s).mapError .coin := rfl

theorem decode_of_ne_str {v : Json} (h : ∀ s, v ≠ .str s) : decode v = shape.decode v := by
  have hwritten : Written.decode v = (shape.decode v).map .fields := by
    cases v with
    | str s => exact absurd rfl (h s)
    | _ => rfl
  rw [decode, hwritten]
  cases shape.decode v <;> rfl

theorem decode_eq_ok_iff {v : Json} {c : Coin} : decode v = .ok c ↔ Noted v c := by
  by_cases h : ∃ s, v = .str s
  · obtain ⟨s, rfl⟩ := h
    have hnot : ¬Given (.str s) c := by
      rintro ⟨_, h, -⟩
      cases h
    rw [decode_str, mapError_eq_ok_iff]
    simp [Noted, hnot]
  · have hne : ∀ s, v ≠ .str s := fun s hs => h ⟨s, hs⟩
    rw [decode_of_ne_str hne, shape_eq_ok_iff]
    simp [Noted, hne]

/-- Coins are read one by one, each in its own notation. -/
theorem decodeList_eq_ok_iff {v : Json} {cs : List Coin} :
    decodeList v = .ok cs ↔ ∃ items, v = .arr items ∧ List.Forall₂ Noted items cs := by
  rw [decodeList, bind_eq_ok_iff]
  simp only [Decode.list_eq_ok_iff, mapM_eq_ok_iff]
  have hitem (v : Json) (c : Coin) :
      (∃ w, Written.decode v = .ok w ∧ w.coin = .ok c) ↔ Noted v c := by
    rw [← decode_eq_ok_iff, decode, bind_eq_ok_iff]
  constructor
  · rintro ⟨ws, ⟨items, rfl, hwritten⟩, hcoins⟩
    have hall := forall₂_through_iff.mp ⟨ws, hwritten, hcoins⟩
    exact ⟨items, rfl, hall.imp fun v c => (hitem v c).mp⟩
  · rintro ⟨items, rfl, h⟩
    obtain ⟨ws, hwritten, hcoins⟩ :=
      forall₂_through_iff.mpr (h.imp fun v c => (hitem v c).mpr)
    exact ⟨ws, ⟨items, rfl, hwritten⟩, hcoins⟩

theorem given_encode (c : Coin) : Given c.encode c :=
  ⟨_, Json.gives_object [("denom", _), ("amount", _)] (by simp),
    Amount.decode_eq_ok_iff.mp (Amount.inverts c.amount)⟩

theorem inverts_shape : shape.decode.Inverts encode := fun c =>
  shape_eq_ok_iff.mpr c.given_encode

theorem inverts : decode.Inverts encode := fun c => decode_eq_ok_iff.mpr (.inr c.given_encode)

theorem inverts_list : decodeList.Inverts (Json.ofList encode) := by
  intro cs
  refine decodeList_eq_ok_iff.mpr ⟨_, rfl, ?_⟩
  rw [List.forall₂_map_left_iff]
  exact List.forall₂_same.mpr fun c _ => .inr c.given_encode

end Coin

/-! ## Calls and queries -/

theorem ManagerCall.inverts : decode.Inverts encode
  | .instantiateSwap codeId debug => by
      have hfound := Json.lookup_sortFields
        [("code_id", .int codeId.toNat), ("debug", .bool debug)] (by simp)
      refine Decode.tagged_eq_ok_iff.mpr ⟨_, _, _, rfl, rfl, ?_⟩
      exact Shape.read_field_of (Shape.read_field_of rfl (hfound "code_id")
        (Decode.inverts_uint64 codeId)) (hfound "debug") (Decode.inverts_bool debug)
  | .instantiateToken codeId etfName etfSymbol => by
      have hfound := Json.lookup_sortFields
        [("code_id", .int codeId.toNat), ("etf_name", .str etfName),
          ("etf_symbol", .str etfSymbol)] (by simp)
      refine Decode.tagged_eq_ok_iff.mpr ⟨_, _, _, rfl, rfl, ?_⟩
      exact Shape.read_field_of (Shape.read_field_of (Shape.read_field_of rfl (hfound "code_id")
        (Decode.inverts_uint64 codeId)) (hfound "etf_name") (Decode.inverts_text etfName))
        (hfound "etf_symbol") (Decode.inverts_text etfSymbol)
  | .swapTokens (some address) balance etf => by
      have hfound := Json.lookup_sortFields
        [("contract", .str address), ("initial_balance", balance.encode),
          ("etf_swap_routes", etf.encode)] (by simp)
      refine Decode.tagged_eq_ok_iff.mpr ⟨_, _, _, rfl, rfl, ?_⟩
      exact Shape.read_field_of (Shape.read_field_of (Shape.read_fieldD_of rfl (hfound "contract")
        rfl) (hfound "initial_balance") (Coin.inverts_shape balance))
        (hfound "etf_swap_routes") (Bundle.inverts etf)
  | .swapTokens none balance etf => by
      have hfound := Json.lookup_sortFields
        [("initial_balance", balance.encode), ("etf_swap_routes", etf.encode)] (by simp)
      refine Decode.tagged_eq_ok_iff.mpr ⟨_, _, _, rfl, rfl, ?_⟩
      exact Shape.read_field_of (Shape.read_field_of (Shape.read_fieldD_absent rfl
        (hfound "contract")) (hfound "initial_balance") (Coin.inverts_shape balance))
        (hfound "etf_swap_routes") (Bundle.inverts etf)
  | .redeemTokens etfName => by
      refine Decode.tagged_eq_ok_iff.mpr ⟨_, _, _, rfl, rfl, ?_⟩
      exact Shape.read_field_of rfl rfl (Decode.inverts_text etfName)

theorem ManagerQuery.inverts : decode.Inverts encode
  | .tokens sender etfType => by
      have hfound := Json.lookup_sortFields
        [("sender", .str sender), ("etf_type", .str etfType)] (by simp)
      refine Decode.tagged_eq_ok_iff.mpr ⟨_, _, _, rfl, rfl, ?_⟩
      exact Shape.read_field_of (Shape.read_field_of rfl (hfound "sender")
        (Decode.inverts_text sender)) (hfound "etf_type") (Decode.inverts_text etfType)
  | .initialSwap sender => by
      refine Decode.tagged_eq_ok_iff.mpr ⟨_, _, _, rfl, rfl, ?_⟩
      exact Shape.read_field_of rfl rfl (Decode.inverts_text sender)
  | .balance sender etfType => by
      have hfound := Json.lookup_sortFields
        [("sender", .str sender), ("etf_type", .str etfType)] (by simp)
      refine Decode.tagged_eq_ok_iff.mpr ⟨_, _, _, rfl, rfl, ?_⟩
      exact Shape.read_field_of (Shape.read_field_of rfl (hfound "sender")
        (Decode.inverts_text sender)) (hfound "etf_type") (Decode.inverts_text etfType)

theorem SwapQuery.inverts : decode.Inverts encode
  | .poolCount => rfl
  | .epochs => rfl
  | .pool poolId | .poolParams poolId =>
      Decode.tagged_eq_ok_iff.mpr ⟨_, _, _, rfl, rfl,
        Shape.read_field_of rfl rfl (Decode.inverts_uint64 poolId)⟩
  | .entry key =>
      Decode.tagged_eq_ok_iff.mpr ⟨_, _, _, rfl, rfl,
        Shape.read_field_of rfl rfl (Decode.inverts_text key)⟩

end Rollout
