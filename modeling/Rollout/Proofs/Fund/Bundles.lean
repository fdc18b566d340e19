import Rollout.Proofs.Plan.Steps

/-!
# Bundles that are read

However a bundle comes about, its parts have passed `Bundle.make`. What the parts of a bundle look
like as a structured value is said by `Bundle.Written`, without the readers: a name, routes and
ratios as an object or as a list, and a ratio as a text of digits. `Bundle.decode_eq_ok_iff` says
that a value is read as a bundle exactly if it is written so and `make` accepts the parts, and
`Bundle.exists_make_iff` that `make` accepts them exactly if they fit. Messages and steps hold
bundles that are read in this way.
-/

namespace Rollout

/-! ## Amounts as texts -/

namespace Text

theorem readNat?_eq_some_iff {cs : List Char} {n : Nat} :
    readNat? cs = some n ↔ cs ≠ [] ∧ (∀ c ∈ cs, c.isDigit = true) ∧ digitsValue cs = n := by
  rw [readNat?]
  by_cases hempty : cs = []
  · simp [hempty]
  by_cases hdigits : cs.all Char.isDigit = true
  · have hall := List.all_eq_true.mp hdigits
    rw [if_neg (by simp [hempty, hdigits])]
    simp only [Option.some.injEq]
    exact ⟨fun h => ⟨hempty, hall, h⟩, fun h => h.2.2⟩
  · rw [if_pos (by simp [hdigits])]
    constructor
    · intro h
      cases h
    · exact fun h => absurd (List.all_eq_true.mpr h.2.1) hdigits

/-- Digits with or without a plus sign. -/
theorem readUnsigned?_eq_some_iff {cs : List Char} {n : Nat} :
    readUnsigned? cs = some n ↔ readNat? cs = some n ∨ ∃ ds, cs = '+' :: ds ∧ readNat? ds = some n := by
  have hplus (ds : List Char) : readNat? ('+' :: ds) ≠ some n := fun h =>
    absurd ((readNat?_eq_some_iff.mp h).2.1 '+' List.mem_cons_self) (by decide)
  rw [readUnsigned?.eq_def]
  split
  · next ds =>
    constructor
    · exact fun h => .inr ⟨ds, rfl, h⟩
    · rintro (h | ⟨es, heq, h⟩)
      · exact absurd h (hplus ds)
      · obtain rfl := (List.cons.inj heq).2
        exact h
  · next hnot =>
    constructor
    · exact .inl
    · rintro (h | ⟨ds, rfl, -⟩)
      · exact h
      · exact absurd rfl (hnot ds)

end Text

namespace Amount

/-- A text of digits, perhaps after a plus sign, that is an amount. -/
def Written (v : Json) (a : Amount) : Prop :=
  ∃ sign digits, v = .str (String.ofList (sign ++ digits)) ∧ (sign = [] ∨ sign = ['+'])
    ∧ digits ≠ [] ∧ (∀ c ∈ digits, c.isDigit = true) ∧ Text.digitsValue digits = a.toNat

theorem parse?_eq_some_iff {s : String} {a : Amount} :
    parse? s = some a ↔ Text.readUnsigned? s.toList = some a.toNat := by
  rw [parse?, Option.bind_eq_some_iff]
  constructor
  · rintro ⟨n, hread, h⟩
    rw [ofNat?] at h
    split at h
    · obtain rfl := Option.some.inj h
      exact hread
    · cases h
  · exact fun h => ⟨_, h, ofNat?_toNat a⟩

theorem decode_eq_ok_iff {v : Json} {a : Amount} : Decode.amount v = .ok a ↔ Written v a := by
  rw [Decode.amount_eq_ok_iff]
  constructor
  · rintro ⟨s, rfl, h⟩
    rcases Text.readUnsigned?_eq_some_iff.mp (parse?_eq_some_iff.mp h) with h | ⟨ds, hs, h⟩
    · exact ⟨[], s.toList, by simp, .inl rfl, Text.readNat?_eq_some_iff.mp h⟩
    · refine ⟨['+'], ds, ?_, .inr rfl, Text.readNat?_eq_some_iff.mp h⟩
      rw [List.singleton_append, ← hs, String.ofList_toList]
  · rintro ⟨sign, digits, rfl, hsign, h⟩
    refine ⟨_, rfl, parse?_eq_some_iff.mpr (Text.readUnsigned?_eq_some_iff.mpr ?_)⟩
    have hread := Text.readNat?_eq_some_iff.mpr h
    rw [String.toList_ofList]
    rcases hsign with rfl | rfl
    · exact .inl hread
    · exact .inr ⟨digits, rfl, hread⟩

theorem parse?_text (a : Amount) : parse? a.text = some a := by
  rw [parse?_eq_some_iff, text, String.toList_ofList, Text.readUnsigned?_eq_some_iff]
  exact .inl (Text.readNat?_numeral a.toNat)

theorem inverts : Decode.amount.Inverts fun a => .str a.text := fun a =>
  Decode.amount_eq_ok_iff.mpr ⟨_, rfl, parse?_text a⟩

end Amount

/-! ## Routes -/

namespace SwapRoute

/-- A value gives the pool and the denomination of a route. -/
def Written (v : Json) (r : SwapRoute) : Prop :=
  v.Gives ["pool_id", "token_out_denom"] [.int r.poolId.toNat, .str r.tokenOutDenom]

theorem decode_eq_ok_iff {v : Json} {r : SwapRoute} : shape.decode v = .ok r ↔ Written v r := by
  rw [Shape.decode_eq_ok_iff, Written, Json.gives_iff (by decide)]
  refine exists_congr fun record => and_congr_right fun _ => ?_
  simp only [shape, Shape.read_field, Shape.read_of, Decode.uint64_eq_ok_iff, Decode.text_eq_ok_iff]
  constructor
  · rintro ⟨-, denom, ⟨-, pool, rfl, ⟨-, hpool, rfl⟩, rfl⟩, ⟨-, hdenom, rfl⟩, rfl⟩
    simp [hpool, hdenom]
  · intro h
    obtain ⟨hpool, hdenom⟩ : Json.lookup record.fields "pool_id" = some (.int r.poolId.toNat)
        ∧ Json.lookup record.fields "token_out_denom" = some (.str r.tokenOutDenom) := by
      simpa using h
    exact ⟨_, _, ⟨_, _, rfl, ⟨_, hpool, rfl⟩, rfl⟩, ⟨_, hdenom, rfl⟩, rfl⟩

theorem inverts : shape.decode.Inverts encode := by
  intro r
  rw [decode_eq_ok_iff]
  exact Json.gives_object [("pool_id", _), ("token_out_denom", _)] (by simp)

end SwapRoute

/-! ## Bundles -/

namespace Bundle

/-- What the parts of a bundle have to be. -/
structure Fit (name : String) (routes : List SwapRoute) (ratios : List Amount) : Prop where
  named : ∃ c ∈ name.toList, Text.isBlank c = false
  routed : 0 < routes.length
  matched : ratios.length = routes.length
  positive : ∀ ratio ∈ ratios, 0 < ratio.toNat

theorem fit (b : Bundle) : Fit b.name b.routes b.ratios where
  named := by simpa [Text.allBlank] using b.named
  routed := List.length_pos_iff.mpr b.routed
  matched := b.matched.symm
  positive ratio h := Nat.pos_of_ne_zero (b.positive ratio h)

theorem make_parts {name : String} {routes : List SwapRoute} {ratios : List Amount} {b : Bundle}
    (h : make name routes ratios = .ok b) :
    b.name = name ∧ b.routes = routes ∧ b.ratios = ratios := by
  rw [make] at h
  split at h
  · cases h
  · split at h
    · cases h
    · split at h
      · split at h
        · cases h
        · cases h
          exact ⟨rfl, rfl, rfl⟩
      · cases h

theorem make_of (b : Bundle) : make b.name b.routes b.ratios = .ok b := by
  have hpositive : b.ratios.findIdx? (fun r => r.toNat = 0) = none := by
    rw [List.findIdx?_eq_none_iff]
    exact fun r hr => decide_eq_false (b.positive r hr)
  rw [make, dif_neg (by simp [b.named]), dif_neg b.routed, dif_pos b.matched]
  split
  · next i hi => cases hi.symm.trans hpositive
  · rfl

/-- Parts are accepted exactly if they fit. -/
theorem exists_make_iff {name : String} {routes : List SwapRoute} {ratios : List Amount} :
    (∃ b, make name routes ratios = .ok b) ↔ Fit name routes ratios := by
  constructor
  · rintro ⟨b, h⟩
    obtain ⟨rfl, rfl, rfl⟩ := make_parts h
    exact b.fit
  · intro h
    exact ⟨_, make_of
      { name, routes, ratios
        named := by simpa [Text.allBlank] using h.named
        routed := List.length_pos_iff.mp h.routed
        matched := h.matched.symm
        positive := fun ratio hr => Nat.ne_of_gt (h.positive ratio hr) }⟩

/-- A value gives the parts of a bundle: its name, its routes and its ratios. -/
def Written (v : Json) (name : String) (routes : List SwapRoute) (ratios : List Amount) : Prop :=
  ∃ routeItems ratioItems,
    v.Gives ["name", "routes", "ratios"] [.str name, .arr routeItems, .arr ratioItems]
      ∧ List.Forall₂ SwapRoute.Written routeItems routes
      ∧ List.Forall₂ Amount.Written ratioItems ratios

theorem parts_eq_ok_iff {v : Json} {name : String} {routes : List SwapRoute}
    {ratios : List Amount} :
    partsShape.decode v = .ok (name, routes, ratios) ↔ Written v name routes ratios := by
  simp only [Shape.decode_eq_ok_iff, Written,
    Json.gives_iff (show ["name", "routes", "ratios"].Nodup by decide)]
  simp only [partsShape, Shape.read_field, Shape.read_of, Decode.text_eq_ok_iff,
    Decode.list_eq_ok_iff, SwapRoute.decode_eq_ok_iff, Amount.decode_eq_ok_iff]
  constructor
  · rintro ⟨r, hr, _, _, ⟨_, _, ⟨_, _, rfl, ⟨_, hname, rfl⟩, rfl⟩, ⟨_, hroutes, items, rfl, hs⟩, rfl⟩,
      ⟨_, hratios, items', rfl, hs'⟩, h⟩
    obtain ⟨rfl, rfl, rfl⟩ : _ ∧ _ ∧ _ := by simpa using h
    exact ⟨items, items', ⟨r, hr, by simp [hname, hroutes, hratios]⟩, hs, hs'⟩
  · rintro ⟨items, items', ⟨r, hr, h⟩, hs, hs'⟩
    obtain ⟨hname, hroutes, hratios⟩ : Json.lookup r.fields "name" = some (.str name)
        ∧ Json.lookup r.fields "routes" = some (.arr items)
        ∧ Json.lookup r.fields "ratios" = some (.arr items') := by simpa using h
    exact ⟨r, hr, _, _, ⟨_, _, ⟨_, _, rfl, ⟨_, hname, rfl⟩, rfl⟩, ⟨_, hroutes, items, rfl, hs⟩, rfl⟩,
      ⟨_, hratios, items', rfl, hs'⟩, rfl⟩

/-- A value is read as a bundle exactly if it gives parts that are accepted. -/
theorem decode_eq_ok_iff {v : Json} {b : Bundle} :
    decode v = .ok b ↔
      ∃ name routes ratios, Written v name routes ratios ∧ make name routes ratios = .ok b := by
  rw [decode, bind_eq_ok_iff]
  constructor
  · rintro ⟨⟨name, routes, ratios⟩, hparts, h⟩
    exact ⟨name, routes, ratios, parts_eq_ok_iff.mp hparts, mapError_eq_ok_iff.mp h⟩
  · rintro ⟨name, routes, ratios, hparts, h⟩
    exact ⟨_, parts_eq_ok_iff.mpr hparts, mapError_eq_ok_iff.mpr h⟩

theorem written_encode (b : Bundle) : Written b.encode b.name b.routes b.ratios := by
  refine ⟨_, _, Json.gives_object [("name", _), ("routes", _), ("ratios", _)] (by simp), ?_, ?_⟩
  · rw [List.forall₂_map_left_iff]
    exact List.forall₂_same.mpr fun r _ => SwapRoute.decode_eq_ok_iff.mp (SwapRoute.inverts r)
  · rw [List.forall₂_map_left_iff]
    exact List.forall₂_same.mpr fun a _ => Amount.decode_eq_ok_iff.mp (Amount.inverts a)

theorem inverts : decode.Inverts encode := fun b =>
  decode_eq_ok_iff.mpr ⟨_, _, _, b.written_encode, b.make_of⟩

end Bundle

/-! ## Bundles in messages and steps -/

/-- The bundle of a message that was read is what was read under its name. -/
theorem ManagerCall.bundle_of_decode {v : Json} {swap : Option String} {balance : Coin} {b : Bundle}
    (h : decode v = .ok (.swapTokens swap balance b)) :
    ∃ fields w, v = .obj [("swap_tokens", .obj fields)]
      ∧ Json.lookup fields "etf_swap_routes" = some w ∧ Bundle.decode w = .ok b := by
  obtain ⟨tag, shape, fields, rfl, hshape, hread⟩ := Decode.tagged_eq_ok_iff.mp h
  have hmem := mem_of_valueOf? hshape
  simp only [List.mem_cons, Prod.mk.injEq, List.not_mem_nil, or_false] at hmem
  rcases hmem with ⟨rfl, rfl⟩ | ⟨rfl, rfl⟩ | ⟨rfl, rfl⟩ | ⟨rfl, rfl⟩
  · simp [Shape.read_field, Shape.read_of] at hread
  · simp [Shape.read_field, Shape.read_of] at hread
  · obtain ⟨_, _, hread, ⟨w, hw, hb⟩, heq⟩ := Shape.read_field.mp hread
    obtain ⟨_, _, hswap, -, rfl⟩ := Shape.read_field.mp hread
    obtain ⟨_, _, hof, -, rfl⟩ := Shape.read_fieldD.mp hswap
    obtain rfl := Shape.read_of.mp hof
    cases heq
    exact ⟨fields, w, rfl, hw, hb⟩
  · simp [Shape.read_field, Shape.read_of] at hread

/-- The bundle of a step that was read is what was read under its name, or in its place. -/
theorem Step.bundle_of_decode {v : Json} {manager : String} {swap : Option String} {balance : Coin}
    {b : Bundle} {funds : List Coin}
    (h : decode v = .ok (.swapTokens manager swap balance b funds)) :
    ∃ w, Bundle.decode w = .ok b
      ∧ ((∃ fields, v = .obj fields ∧ Json.lookup fields "etf" = some w)
        ∨ ∃ items, v = .arr items ∧ items[4]? = some w) := by
  obtain ⟨shape, rest, r, hacts, hshape, hr, w, hw, hb⟩ := told_of_decode h
  refine ⟨w, hb, ?_⟩
  cases hacts with
  | object =>
      cases hr
      exact .inl ⟨_, rfl, (Json.lookup_filter _ "action" "etf").symm.trans hw⟩
  | list =>
      obtain rfl := Option.some.inj hshape
      cases hr with
      | list =>
          exact .inr ⟨_, rfl, Json.getElem?_of_lookup_zip (i := 3) (by decide) rfl hw⟩

/-! ## The law of bundles -/

/-- A value is read as a bundle exactly if it gives parts that `make` accepts, which it does if they
fit. Bundles in messages and steps are read in the same way, and what is written of a bundle is
read as that bundle. -/
theorem Bundle.reading_law :
    (∀ v b, decode v = .ok b ↔
        ∃ name routes ratios, Written v name routes ratios ∧ make name routes ratios = .ok b)
      ∧ (∀ name routes ratios,
        ((∃ b, make name routes ratios = .ok b) ↔ Fit name routes ratios)
          ∧ ∀ b, make name routes ratios = .ok b →
            b.name = name ∧ b.routes = routes ∧ b.ratios = ratios)
      ∧ (∀ v b, decode v = .ok b → Fit b.name b.routes b.ratios)
      ∧ (∀ v swap balance b, ManagerCall.decode v = .ok (.swapTokens swap balance b) →
        Fit b.name b.routes b.ratios
          ∧ ∃ fields w, v = .obj [("swap_tokens", .obj fields)]
            ∧ Json.lookup fields "etf_swap_routes" = some w ∧ decode w = .ok b)
      ∧ (∀ v manager swap balance b funds,
        Step.decode v = .ok (.swapTokens manager swap balance b funds) →
          Fit b.name b.routes b.ratios
            ∧ ∃ w, decode w = .ok b
              ∧ ((∃ fields, v = .obj fields ∧ Json.lookup fields "etf" = some w)
                ∨ ∃ items, v = .arr items ∧ items[4]? = some w))
      ∧ ∀ b : Bundle, decode b.encode = .ok b :=
  ⟨fun _ _ => decode_eq_ok_iff, fun _ _ _ => ⟨exists_make_iff, fun _ => make_parts⟩,
    fun _ b _ => b.fit, fun _ _ _ b h => ⟨b.fit, ManagerCall.bundle_of_decode h⟩,
    fun _ _ _ _ b _ h => ⟨b.fit, Step.bundle_of_decode h⟩, inverts⟩

/-- A fund with one route, whose ratio is written with a plus sign and a leading zero, on its own,
in a message and in a step that lists its fields. -/
theorem Bundle.reading_law_of_one_route :
    let v : Json :=
      .obj
        [("ratios", .arr [.str "+050"]), ("name", .str "fund"),
          ("routes", .arr [.arr [.int 1, .str "uosmo"]])]
    let message : Json :=
      .obj
        [("swap_tokens",
          .obj [("initial_balance", .arr [.str "uosmo", .str "7"]), ("etf_swap_routes", v)])]
    let step : Json := .arr [.str "swap_tokens", .str "manager", .null, .str "7uosmo", v, .arr []]
    ∃ b, decode v = .ok b ∧ b.ratios.map Amount.toNat = [50] ∧ Fit b.name b.routes b.ratios
      ∧ (∃ fields w, message = .obj [("swap_tokens", .obj fields)]
        ∧ Json.lookup fields "etf_swap_routes" = some w ∧ decode w = .ok b)
      ∧ (∃ w, decode w = .ok b
        ∧ ((∃ fields, step = .obj fields ∧ Json.lookup fields "etf" = some w)
          ∨ ∃ items, step = .arr items ∧ items[4]? = some w)) := by
  intro v message step
  obtain ⟨-, -, hfit, hmessage, hstep, -⟩ := reading_law
  let balance : Coin := ⟨"uosmo", ⟨7, by decide⟩⟩
  obtain ⟨b, hb⟩ : ∃ b, decode v = .ok b := ⟨_, rfl⟩
  have hratios : b.ratios.map Amount.toNat = [50] := by
    cases hb
    rfl
  have hinMessage : ManagerCall.decode message = .ok (.swapTokens none balance b) := by
    cases hb
    rfl
  have hinStep : Step.decode step = .ok (.swapTokens "manager" none balance b []) := by
    cases hb
    rfl
  exact ⟨b, hb, hratios, hfit v b hb, (hmessage _ _ _ _ hinMessage).2, (hstep _ _ _ _ _ _ hinStep).2⟩

end Rollout
